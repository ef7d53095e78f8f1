import StreamPolicy.Text.Utf8

/-!
# UTF-8 read back

The bytes of a character are read as that character whatever follows them, so a text that was
written is read back, and an ASCII character is one byte.
-/

namespace StreamPolicy.Text.Utf8

theorem encode_cons (c : Char) (s : List Char) : encode (c :: s) = encodeChar c ++ encode s :=
  List.flatMap_cons

theorem encode_append (a b : List Char) : encode (a ++ b) = encode a ++ encode b :=
  List.flatMap_append

theorem encodeChar_of_ascii {c : Char} (ascii : c.toNat < 0x80) : encodeChar c = [UInt8.ofNat c.toNat] := by
  simp [encodeChar, ascii]

theorem toNat_tail (n : Nat) : (tail n).toNat = 0x80 + n % 64 := by
  rw [tail, UInt8.toNat_ofNat']
  omega

theorem bits_tail (n : Nat) : bits (tail n) = n % 64 := by
  rw [bits, toNat_tail]
  omega

theorem within_tail (n : Nat) : within 0x80 0xBF (tail n) = true := by
  simp only [within, toNat_tail, Bool.and_eq_true, decide_eq_true_eq]
  omega

theorem toNat_lt (c : Char) : c.toNat < 0xD800 ∨ 0xDFFF < c.toNat ∧ c.toNat < 0x110000 :=
  c.valid

/-- The first continuation byte of a character of three bytes is one that its lead byte allows. -/
theorem within_second_three {n : Nat} (low : 0x800 ≤ n) (scalar : n < 0xD800 ∨ 0xDFFF < n ∧ n < 0x10000) :
    within (secondBounds (0xE0 + n / 4096)).1 (secondBounds (0xE0 + n / 4096)).2 (tail (n / 64)) = true := by
  simp only [within, toNat_tail, Bool.and_eq_true, decide_eq_true_eq, secondBounds]
  split
  · dsimp only
    omega
  split
  · dsimp only
    omega
  split
  · omega
  split
  · omega
  · dsimp only
    omega

/-- The first continuation byte of a character of four bytes is one that its lead byte allows. -/
theorem within_second_four {n : Nat} (low : 0x10000 ≤ n) (high : n < 0x110000) :
    within (secondBounds (0xF0 + n / 262144)).1 (secondBounds (0xF0 + n / 262144)).2 (tail (n / 4096)) = true := by
  simp only [within, toNat_tail, Bool.and_eq_true, decide_eq_true_eq, secondBounds]
  split
  · omega
  split
  · omega
  split
  · dsimp only
    omega
  split
  · dsimp only
    omega
  · dsimp only
    omega

/-- The bytes of a character are read as that character, whatever follows. -/
theorem step_of_encodeChar {c : Char} {lead : UInt8} {more : List UInt8} (written : encodeChar c = lead :: more)
    (rest : List UInt8) : step lead (more ++ rest) = .char c rest := by
  have scalar := toNat_lt c
  have back (n : Nat) (same : n = c.toNat) : Char.ofNat n = c := same ▸ Char.ofNat_toNat c
  simp only [encodeChar] at written
  split at written
  next one =>
    cases written
    have value : (UInt8.ofNat c.toNat).toNat = c.toNat := by rw [UInt8.toNat_ofNat']; omega
    unfold step
    dsimp only
    rw [value, if_pos one, back _ rfl, List.nil_append]
  split at written
  next _ two =>
    cases written
    have value : (UInt8.ofNat (0xC0 + c.toNat / 64)).toNat = 0xC0 + c.toNat / 64 := by
      rw [UInt8.toNat_ofNat']; omega
    unfold step
    dsimp only [List.cons_append, List.nil_append]
    rw [value]
    rw [if_neg (by omega), if_pos (by simp; omega), within_tail, if_pos rfl, bits_tail, back _ (by omega)]
  split at written
  next _ _ three =>
    cases written
    have value : (UInt8.ofNat (0xE0 + c.toNat / 4096)).toNat = 0xE0 + c.toNat / 4096 := by
      rw [UInt8.toNat_ofNat']; omega
    unfold step
    dsimp only [List.cons_append, List.nil_append]
    rw [value]
    rw [if_neg (by omega), if_neg (by simp; omega), if_pos (by simp; omega),
      within_second_three (by omega) (by omega), if_pos rfl, within_tail, if_pos rfl, bits_tail, bits_tail,
      back _ (by omega)]
  next _ _ four =>
    cases written
    have value : (UInt8.ofNat (0xF0 + c.toNat / 262144)).toNat = 0xF0 + c.toNat / 262144 := by
      rw [UInt8.toNat_ofNat']; omega
    unfold step
    dsimp only [List.cons_append, List.nil_append]
    rw [value]
    rw [if_neg (by omega), if_neg (by simp; omega), if_neg (by simp; omega), if_pos (by simp; omega),
      within_second_four (by omega) (by omega), if_pos rfl, within_tail, if_pos rfl, within_tail, if_pos rfl,
      bits_tail, bits_tail, bits_tail, back _ (by omega)]

theorem encodeChar_ne_nil (c : Char) : encodeChar c ≠ [] := by
  unfold encodeChar
  dsimp only
  split
  · exact List.cons_ne_nil _ _
  split
  · exact List.cons_ne_nil _ _
  split
  · exact List.cons_ne_nil _ _
  · exact List.cons_ne_nil _ _

theorem exists_step_encodeChar (c : Char) (rest : List UInt8) :
    ∃ lead more, encodeChar c ++ rest = lead :: more ∧ step lead more = .char c rest := by
  cases written : encodeChar c with
  | nil => exact absurd written (encodeChar_ne_nil c)
  | cons lead more => exact ⟨lead, more ++ rest, rfl, step_of_encodeChar written rest⟩

theorem decodeLossy_encodeChar_append (c : Char) (rest : List UInt8) :
    decodeLossy (encodeChar c ++ rest) = c :: decodeLossy rest := by
  obtain ⟨lead, more, written, read⟩ := exists_step_encodeChar c rest
  rw [written, decodeLossy]
  split
  next _ _ found =>
    cases read.symm.trans found
    rfl
  next _ found => cases read.symm.trans found

theorem decode?_encodeChar_append (c : Char) (rest : List UInt8) :
    decode? (encodeChar c ++ rest) = (decode? rest).map (c :: ·) := by
  obtain ⟨lead, more, written, read⟩ := exists_step_encodeChar c rest
  rw [written, decode?]
  split
  next _ _ found =>
    cases read.symm.trans found
    rfl
  next _ found => cases read.symm.trans found

/-- A text that was written is read back, and no byte of it is ill-formed. -/
theorem decode?_encode (s : List Char) : decode? (encode s) = some s := by
  induction s with
  | nil => rw [encode, List.flatMap_nil, decode?]
  | cons c s ih => rw [encode_cons, decode?_encodeChar_append, ih, Option.map_some]

/-- A text that was written is read back. -/
theorem decodeLossy_encode (s : List Char) : decodeLossy (encode s) = s := by
  induction s with
  | nil => rw [encode, List.flatMap_nil, decodeLossy]
  | cons c s ih => rw [encode_cons, decodeLossy_encodeChar_append, ih]

/-! ## Bytes of ASCII -/

/-- A byte of ASCII is written for its own character only. -/
theorem toNat_eq_of_mem_encodeChar {c : Char} {b : UInt8} (ascii : b.toNat < 0x80) (member : b ∈ encodeChar c) :
    c.toNat = b.toNat := by
  have tails (n : Nat) : b ≠ tail n := by
    rintro rfl
    rw [toNat_tail] at ascii
    omega
  have leads (n : Nat) (low : 0x80 ≤ n) (high : n < 256) : b ≠ UInt8.ofNat n := by
    rintro rfl
    rw [UInt8.toNat_ofNat'] at ascii
    omega
  have scalar := toNat_lt c
  simp only [encodeChar] at member
  split at member
  next one =>
    rw [List.mem_singleton.mp member, UInt8.toNat_ofNat']
    omega
  split at member
  next _ two =>
    simp only [List.mem_cons, tails, List.not_mem_nil, or_false] at member
    exact absurd member (leads _ (by omega) (by omega))
  split at member
  next _ _ three =>
    simp only [List.mem_cons, tails, List.not_mem_nil, or_false] at member
    exact absurd member (leads _ (by omega) (by omega))
  next _ _ four =>
    simp only [List.mem_cons, tails, List.not_mem_nil, or_false] at member
    exact absurd member (leads _ (by omega) (by omega))

/-- A byte of ASCII stands in the bytes of a text only where the text has its character. -/
theorem ofNat_mem_of_mem_encode {s : List Char} {b : UInt8} (ascii : b.toNat < 0x80) (member : b ∈ encode s) :
    Char.ofNat b.toNat ∈ s := by
  obtain ⟨c, inside, written⟩ := List.mem_flatMap.mp member
  rwa [← toNat_eq_of_mem_encodeChar ascii written, Char.ofNat_toNat]

end StreamPolicy.Text.Utf8
