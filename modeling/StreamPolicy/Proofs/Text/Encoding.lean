import Mathlib.Data.Bool.AllAny
import Mathlib.Data.List.Basic
import StreamPolicy.Proofs.Text.Search
import StreamPolicy.Proofs.Text.Utf8
import StreamPolicy.Text.Encoding

/-!
# Escapes read back, and the shape of a text in base64

Escaping is undone by decoding. A mark is a character that escaping neither changes nor adds, so a
text of marks is found in the escaped text where it is found in the plain one.

In base64 every whole group of three bytes is four digits. Two bytes left over are three digits and one
fill character, so the width of the text is known from the number of bytes alone.
-/

namespace StreamPolicy.Text.Percent

theorem encode_cons (c : Char) (s : List Char) : encode (c :: s) = encodeChar c ++ encode s :=
  List.flatMap_cons

theorem encode_append (a b : List Char) : encode (a ++ b) = encode a ++ encode b :=
  List.flatMap_append

/-! ## Reading escapes back -/

theorem hexValue?_hexDigit {n : Nat} (digit : n < 16) : hexValue? (UInt8.ofNat (hexDigit n).toNat) = some n := by
  revert n
  decide

theorem toNat_hexDigit_lt {n : Nat} (digit : n < 16) : (hexDigit n).toNat < 0x80 := by
  revert n
  decide

theorem encode_escapeByte (b : UInt8) :
    Utf8.encode (escapeByte b) =
      [0x25, UInt8.ofNat (hexDigit (b.toNat / 16)).toNat, UInt8.ofNat (hexDigit (b.toNat % 16)).toNat] := by
  have small := b.toNat_lt
  have high := Utf8.encodeChar_of_ascii (toNat_hexDigit_lt (n := b.toNat / 16) (by omega))
  have low := Utf8.encodeChar_of_ascii (toNat_hexDigit_lt (n := b.toNat % 16) (by omega))
  have percent : Utf8.encodeChar '%' = [0x25] := by decide
  simp only [Utf8.encode, escapeByte, List.flatMap_cons, List.flatMap_nil, high, low, percent, List.cons_append,
    List.nil_append]

theorem decodeBytes_escapeByte_append (b : UInt8) (rest : List UInt8) :
    decodeBytes (Utf8.encode (escapeByte b) ++ rest) = b :: decodeBytes rest := by
  have small := b.toNat_lt
  rw [encode_escapeByte]
  simp only [List.cons_append, List.nil_append, decodeBytes]
  rw [hexValue?_hexDigit (by omega), hexValue?_hexDigit (by omega)]
  dsimp only
  rw [Nat.div_add_mod' b.toNat 16, UInt8.ofNat_toNat]

theorem decodeBytes_escapes_append (bs rest : List UInt8) :
    decodeBytes (Utf8.encode (bs.flatMap escapeByte) ++ rest) = bs ++ decodeBytes rest := by
  induction bs with
  | nil => rfl
  | cons b bs ih =>
    rw [List.flatMap_cons, Utf8.encode_append, List.append_assoc, decodeBytes_escapeByte_append, ih,
      List.cons_append]

theorem decodeBytes_cons_of_ne {b : UInt8} (plain : b ≠ 0x25) (rest : List UInt8) :
    decodeBytes (b :: rest) = b :: decodeBytes rest := by
  rw [decodeBytes]
  intro _ _ _ percent
  exact absurd percent plain

theorem ascii_of_isAlphanum {c : Char} (alphanum : c.isAlphanum = true) : c.toNat < 0x80 := by
  have below (last : Char) (ascii : last.toNat < 0x80) (within : c.val ≤ last.val) : c.toNat < 0x80 :=
    Nat.lt_of_le_of_lt (UInt32.le_iff_toNat_le.mp within) ascii
  rcases Bool.or_eq_true_iff.mp alphanum with letter | digit
  · rcases Bool.or_eq_true_iff.mp letter with upper | lower
    · exact below 'Z' (by decide) (of_decide_eq_true upper).2
    · exact below 'z' (by decide) (of_decide_eq_true (Bool.and_eq_true_iff.mp lower).2)
  · exact below '9' (by decide) (of_decide_eq_true (Bool.and_eq_true_iff.mp digit).2)

/-- What a link keeps is an ASCII character other than the percent sign. -/
theorem ascii_of_isKept {c : Char} (kept : isKept c = true) : c.toNat < 0x80 ∧ c ≠ '%' := by
  rw [isKept, Bool.or_eq_true, List.contains_iff_mem] at kept
  rcases kept with letter | mark
  · constructor
    · exact ascii_of_isAlphanum letter
    · rintro rfl
      revert letter
      decide
  · have marks : ∀ c ∈ ";,/?:@&=+$-_.!~*'()#".toList, c.toNat < 0x80 ∧ c ≠ '%' :=
      List.all_iff_forall_prop.mp (by decide)
    exact marks c mark

theorem decodeBytes_encodeChar_append (c : Char) (rest : List UInt8) :
    decodeBytes (Utf8.encode (encodeChar c) ++ rest) = Utf8.encodeChar c ++ decodeBytes rest := by
  rw [encodeChar]
  by_cases kept : isKept c = true
  · obtain ⟨ascii, other⟩ := ascii_of_isKept kept
    have plain : UInt8.ofNat c.toNat ≠ 0x25 := by
      intro percent
      apply other
      have value := congrArg UInt8.toNat percent
      rw [UInt8.toNat_ofNat', Nat.mod_eq_of_lt (by omega)] at value
      rw [← Char.ofNat_toNat c, value]
      rfl
    rw [if_pos kept, Utf8.encode, List.flatMap_singleton, Utf8.encodeChar_of_ascii ascii, List.singleton_append,
      List.singleton_append, decodeBytes_cons_of_ne plain]
  · rw [if_neg kept, decodeBytes_escapes_append]

theorem decodeBytes_encode (s : List Char) : decodeBytes (Utf8.encode (encode s)) = Utf8.encode s := by
  induction s with
  | nil => rfl
  | cons c s ih =>
    rw [encode_cons, Utf8.encode_append, decodeBytes_encodeChar_append, ih, Utf8.encode_cons]

/-- Decoding undoes escaping. -/
theorem decode_encode (s : List Char) : decode (encode s) = s := by
  rw [decode, decodeBytes_encode, Utf8.decodeLossy_encode]

/-! ## Texts without escapes -/

theorem decodeBytes_of_not_mem {bytes : List UInt8} (plain : 0x25 ∉ bytes) : decodeBytes bytes = bytes := by
  induction bytes with
  | nil => rfl
  | cons b rest ih =>
    have other : b ≠ 0x25 := fun percent => plain (percent ▸ List.mem_cons_self)
    have later : 0x25 ∉ rest := fun member => plain (List.mem_cons_of_mem b member)
    rw [decodeBytes_cons_of_ne other, ih later]

/-- Decoding leaves a text without percent signs alone. -/
theorem decode_of_not_mem {s : List Char} (plain : '%' ∉ s) : decode s = s := by
  have bytes : 0x25 ∉ Utf8.encode s := fun member => plain (Utf8.ofNat_mem_of_mem_encode (by decide) member)
  rw [decode, decodeBytes_of_not_mem bytes, Utf8.decodeLossy_encode]

/-! ## Marks -/

/-- A character that escaping keeps and that no escape is made of. -/
def IsMark (c : Char) : Prop :=
  isKept c = true ∧ c ∉ "%0123456789ABCDEF".toList

instance : DecidablePred IsMark :=
  fun c => inferInstanceAs (Decidable (isKept c = true ∧ c ∉ "%0123456789ABCDEF".toList))

theorem mem_escapeByte {x : Char} {b : UInt8} (member : x ∈ escapeByte b) : x ∈ "%0123456789ABCDEF".toList := by
  have digits {n : Nat} (digit : n < 16) : hexDigit n ∈ "%0123456789ABCDEF".toList := by
    revert n
    decide
  have small := b.toNat_lt
  simp only [escapeByte, List.mem_cons, List.not_mem_nil, or_false] at member
  rcases member with rfl | rfl | rfl
  · decide
  · exact digits (by omega)
  · exact digits (by omega)

theorem not_mem_escapeByte {x : Char} (mark : IsMark x) (b : UInt8) : x ∉ escapeByte b :=
  fun member => mark.2 (mem_escapeByte member)

theorem not_mem_encodeChar {x c : Char} (mark : IsMark x) (escaped : isKept c ≠ true) : x ∉ encodeChar c := by
  rw [encodeChar, if_neg escaped, List.mem_flatMap]
  rintro ⟨b, _, member⟩
  exact not_mem_escapeByte mark b member

theorem encodeChar_ne_nil (c : Char) : encodeChar c ≠ [] := by
  rw [encodeChar]
  split
  · exact List.cons_ne_nil c []
  · intro empty
    obtain ⟨b, written⟩ := List.exists_mem_of_ne_nil _ (Utf8.encodeChar_ne_nil c)
    exact List.cons_ne_nil _ _ (List.flatMap_eq_nil_iff.mp empty b written)

theorem after?_cons_eq_none {x : Char} {needle a : List Char} (absent : x ∉ a) (some : a ≠ []) (b : List Char) :
    after? (x :: needle) (a ++ b) = none := by
  cases a with
  | nil => exact absurd rfl some
  | cons c a =>
    have other : x ≠ c := fun same => absent (same ▸ List.mem_cons_self)
    rw [List.cons_append, after?, if_neg other]

theorem after?_encode {needle : List Char} (marks : ∀ x ∈ needle, IsMark x) (s : List Char) :
    after? needle (encode s) = (after? needle s).map encode := by
  induction needle generalizing s with
  | nil => rfl
  | cons x needle ih =>
    obtain ⟨mark, rest⟩ := List.forall_mem_cons.mp marks
    cases s with
    | nil => rfl
    | cons c s =>
      rw [encode_cons]
      by_cases kept : isKept c = true
      · rw [encodeChar, if_pos kept, List.singleton_append, after?, after?]
        by_cases same : x = c
        · rw [if_pos same, if_pos same, ih rest]
        · rw [if_neg same, if_neg same, Option.map_none]
      · have other : x ≠ c := fun same => kept (same ▸ mark.1)
        rw [after?_cons_eq_none (not_mem_encodeChar mark kept) (encodeChar_ne_nil c), after?, if_neg other,
          Option.map_none]

/-- Marks are found in the escaped text where they are found in the plain one. -/
theorem cut?_encode {x : Char} {needle : List Char} (marks : ∀ y ∈ x :: needle, IsMark y) (s : List Char) :
    cut? (x :: needle) (encode s) = (cut? (x :: needle) s).map fun (a, b) => (encode a, encode b) := by
  induction s with
  | nil => rfl
  | cons c s ih =>
    have front := after?_encode marks (c :: s)
    rw [cut?]
    by_cases kept : isKept c = true
    · have whole : encode (c :: s) = c :: encode s := by
        rw [encode_cons, encodeChar, if_pos kept, List.singleton_append]
      rw [whole, cut?, ← whole, front, ih]
      cases after? (x :: needle) (c :: s) with
      | some rest => rfl
      | none =>
        rw [Option.map_none]
        dsimp only
        rw [Option.map_map, Option.map_map]
        congr 1
        funext parts
        simp [encode, encodeChar, kept]
    · have mark := marks x List.mem_cons_self
      have other : x ≠ c := fun same => kept (same ▸ mark.1)
      rw [encode_cons, cut?_append_of_not_mem (not_mem_encodeChar mark kept), ih, after?,
        if_neg other, Option.map_map]
      dsimp only
      rw [Option.map_map]
      congr 1

theorem infix_encode_iff {x : Char} {needle : List Char} (marks : ∀ y ∈ x :: needle, IsMark y) {s : List Char} :
    x :: needle <:+: encode s ↔ x :: needle <:+: s := by
  rw [← occurs_iff_infix, ← occurs_iff_infix, occurs, occurs, cut?_encode marks, Option.isSome_map]

theorem mem_encode_iff {x : Char} (mark : IsMark x) {s : List Char} : x ∈ encode s ↔ x ∈ s := by
  have marks : ∀ y ∈ [x], IsMark y := by simpa using mark
  rw [← List.singleton_infix_iff x (encode s), infix_encode_iff marks, List.singleton_infix_iff]

/-- Replacing marks by marks can be done before or after escaping. -/
theorem replaceAll_encode {x : Char} {needle by_ : List Char} (marks : ∀ y ∈ x :: needle, IsMark y)
    (kept : encode by_ = by_) (s : List Char) :
    replaceAll (x :: needle) by_ (encode s) = encode (replaceAll (x :: needle) by_ s) := by
  have cut' := cut?_encode marks s
  rw [replaceAll, dif_neg (List.cons_ne_nil x needle), replaceAll, dif_neg (List.cons_ne_nil x needle)]
  split
  next a' b' found =>
    split
    next a b here =>
      rw [here, found] at cut'
      cases cut'
      have shorter := length_lt_of_cut? (List.cons_ne_nil x needle) here
      rw [replaceAll_encode marks kept b, encode_append, encode_append, kept]
    next absent =>
      rw [absent, found] at cut'
      cases cut'
  next absent' =>
    split
    next a b here =>
      rw [here, absent'] at cut'
      cases cut'
    next absent => rfl
termination_by s.length

/-! ## What escaping leaves alone -/

/-- An escaped text is written with the characters that a link keeps and with percent signs. -/
theorem kept_or_percent_of_mem_encode {x : Char} {s : List Char} (member : x ∈ encode s) :
    isKept x = true ∨ x = '%' := by
  have digits : ∀ y ∈ "%0123456789ABCDEF".toList, isKept y = true ∨ y = '%' :=
    List.all_iff_forall_prop.mp (by decide)
  obtain ⟨c, _, written⟩ := List.mem_flatMap.mp member
  rw [encodeChar] at written
  split at written
  next kept =>
    rw [List.mem_singleton.mp written]
    exact .inl kept
  next =>
    obtain ⟨b, _, escape⟩ := List.mem_flatMap.mp written
    exact digits x (mem_escapeByte escape)

theorem not_mem_encode {x : Char} (lost : isKept x ≠ true) (other : x ≠ '%') (s : List Char) : x ∉ encode s := by
  intro member
  rcases kept_or_percent_of_mem_encode member with kept | percent
  · exact lost kept
  · exact other percent

theorem one_lt_length_encodeChar {c : Char} (escaped : isKept c ≠ true) : 1 < (encodeChar c).length := by
  rw [encodeChar, if_neg escaped]
  cases bytes : Utf8.encodeChar c with
  | nil => exact absurd bytes (Utf8.encodeChar_ne_nil c)
  | cons b more => simp [escapeByte]

theorem length_le_length_encode (s : List Char) : s.length ≤ (encode s).length := by
  induction s with
  | nil => exact Nat.le_refl 0
  | cons c s ih =>
    have some := List.length_pos_iff.mpr (encodeChar_ne_nil c)
    rw [encode_cons, List.length_append, List.length_cons]
    omega

/-- Escaping leaves a text alone exactly when a link keeps all of its characters. -/
theorem encode_eq_self_iff {s : List Char} : encode s = s ↔ ∀ c ∈ s, isKept c = true := by
  induction s with
  | nil => simp [encode]
  | cons c s ih =>
    rw [encode_cons, List.forall_mem_cons, ← ih]
    by_cases kept : isKept c = true
    · simp [encodeChar, kept]
    · refine iff_of_false (fun same => ?_) fun all => kept all.1
      have long := one_lt_length_encodeChar kept
      have later := length_le_length_encode s
      have lengths := congrArg List.length same
      rw [List.length_append, List.length_cons] at lengths
      omega

end StreamPolicy.Text.Percent

namespace StreamPolicy.Text.Base64

/-- A character of the alphabet for links. -/
def IsDigit (c : Char) : Prop :=
  c.isAlphanum = true ∨ c = '-' ∨ c = '_'

instance : DecidablePred IsDigit :=
  fun c => inferInstanceAs (Decidable (c.isAlphanum = true ∨ c = '-' ∨ c = '_'))

theorem isDigit_digit (n : Nat) : IsDigit (digit n) := by
  by_cases small : n < 64
  · revert n
    decide
  · have last : digit n = '_' := by
      rw [digit, if_neg (by omega), if_neg (by omega), if_neg (by omega), if_neg (by omega)]
    rw [last]
    decide

/-- Bytes that leave two over are written with digits and one fill character at the end. -/
theorem encode_of_pair_left {bytes : List UInt8} (pair : bytes.length % 3 = 2) :
    ∃ digits, encode bytes = digits ++ ['='] ∧ digits.length = 4 * (bytes.length / 3) + 3 ∧ ∀ c ∈ digits, IsDigit c := by
  induction bytes using encode.induct with
  | case1 a b c rest ih =>
    have fewer : rest.length % 3 = 2 := by
      simp only [List.length_cons] at pair
      omega
    obtain ⟨digits, written, length, all⟩ := ih fewer
    simp only [encode, written]
    refine ⟨_ :: _ :: _ :: _ :: digits, rfl, ?_, ?_⟩
    · simp only [List.length_cons, length]
      omega
    · simpa only [List.forall_mem_cons, isDigit_digit, true_and] using all
  | case2 a b =>
    refine ⟨[_, _, _], rfl, by simp, ?_⟩
    simp only [List.forall_mem_cons, isDigit_digit, true_and]
    exact fun c absent => nomatch absent
  | case3 a => simp at pair
  | case4 => simp at pair

end StreamPolicy.Text.Base64
