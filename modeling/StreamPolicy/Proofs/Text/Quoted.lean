import StreamPolicy.Proofs.Text.Search
import StreamPolicy.Text.Quoted

/-!
# Quoted texts told apart

A character is written between the quotes as itself, by a letter, or by its code point, and no way of
writing one is the beginning of a way of writing another. A quote inside is always escaped, so a quoted
text ends at its last quote whatever follows it: from texts that are quoted side by side each can be read
off.
-/

namespace StreamPolicy.Text.Quoted

/-! ## Hexadecimal -/

theorem digitChar_inj {m n : Nat} (small : m < 16) (small' : n < 16) (same : Nat.digitChar m = Nat.digitChar n) :
    m = n := by
  have table : ∀ m < 16, ∀ n < 16, Nat.digitChar m = Nat.digitChar n → m = n := by decide
  exact table m small n small' same

theorem hexText_ne_nil (n : Nat) : hexText n ≠ [] :=
  Nat.toDigits_ne_nil

/-- A number ends with its last digit, and the others write how many sixteens it holds. -/
theorem hexText_eq (n : Nat) : hexText n = (if n < 16 then [] else hexText (n / 16)) ++ [Nat.digitChar (n % 16)] := by
  rw [hexText, Nat.toDigits_eq_if (by decide)]
  split
  next small => rw [Nat.mod_eq_of_lt small, List.nil_append]
  next large => rfl

theorem hexText_inj {m n : Nat} (same : hexText m = hexText n) : m = n := by
  induction m using Nat.strongRecOn generalizing n with
  | ind m ih =>
    rw [hexText_eq m, hexText_eq n] at same
    obtain ⟨front, last⟩ := List.append_inj' same rfl
    have digit : m % 16 = n % 16 :=
      digitChar_inj (Nat.mod_lt _ (by decide)) (Nat.mod_lt _ (by decide)) (List.singleton_inj.mp last)
    split at front
    next small =>
      split at front
      next small' => omega
      next large' => exact absurd front.symm (hexText_ne_nil _)
    next large =>
      split at front
      next small' => exact absurd front (hexText_ne_nil _)
      next large' =>
        have sixteens : m / 16 = n / 16 := ih (m / 16) (by omega) front
        omega

theorem brace_not_mem_hexText (n : Nat) : '\x7d' ∉ hexText n := by
  have digits : ∀ d < 16, '\x7d' ≠ Nat.digitChar d := by decide
  induction n using Nat.strongRecOn with
  | ind n ih =>
    have last := digits (n % 16) (Nat.mod_lt _ (by decide))
    rw [hexText_eq, List.mem_append, List.mem_singleton, not_or]
    refine ⟨?_, last⟩
    split
    next => exact List.not_mem_nil
    next large => exact ih (n / 16) (by omega)

/-! ## One character -/

/-- The characters that are written by a letter, each with its letter. -/
def letters : List (Char × Char) :=
  [('"', '"'), ('\\', '\\'), ('\n', 'n'), ('\r', 'r'), ('\t', 't'), ('\x00', '0')]

/-- The ways of writing a character between quotes. -/
inductive Writes (c : Char) : List Char → Prop
  | itself (noQuote : c ≠ '"') (noBackslash : c ≠ '\\') : Writes c [c]
  | byLetter {letter : Char} (listed : (c, letter) ∈ letters) : Writes c ['\\', letter]
  | byCode : Writes c ('\\' :: 'u' :: '\x7b' :: (hexText c.toNat ++ ['\x7d']))

theorem writes_encodeChar (c : Char) : Writes c (encodeChar c) := by
  unfold encodeChar
  split
  next quote => exact .byLetter (by simp [quote, letters])
  next noQuote =>
    split
    next backslash => exact .byLetter (by simp [backslash, letters])
    next noBackslash =>
      split
      next newline => exact .byLetter (by simp [newline, letters])
      split
      next return_ => exact .byLetter (by simp [return_, letters])
      split
      next tab => exact .byLetter (by simp [tab, letters])
      split
      next null =>
        have zero : c = '\x00' := Char.toNat_inj.mp null
        exact .byLetter (by simp [zero, letters])
      split
      next => exact .byCode
      split
      next => exact .itself noQuote noBackslash
      split
      next => exact .byCode
      next => exact .itself noQuote noBackslash

theorem eq_of_letters {c c' letter : Char} (listed : (c, letter) ∈ letters) (listed' : (c', letter) ∈ letters) :
    c = c' := by
  have table : ∀ p ∈ letters, ∀ p' ∈ letters, p.2 = p'.2 → p.1 = p'.1 := by decide
  exact table _ listed _ listed' rfl

/-- The letter that opens a code point stands for no character. -/
theorem ne_of_letters {c letter : Char} (listed : (c, letter) ∈ letters) : letter ≠ 'u' := by
  have table : ∀ p ∈ letters, p.2 ≠ 'u' := by decide
  exact table _ listed

/-- What is written first in a text can be read off. -/
theorem Writes.append_inj {c c' : Char} {w w' r r' : List Char} (writes : Writes c w) (writes' : Writes c' w')
    (same : w ++ r = w' ++ r') : c = c' ∧ r = r' := by
  cases writes with
  | itself _ noBackslash =>
    cases writes' with
    | itself => exact List.cons.inj same
    | byLetter => exact absurd (List.cons.inj same).1 noBackslash
    | byCode => exact absurd (List.cons.inj same).1 noBackslash
  | byLetter listed =>
    cases writes' with
    | itself _ noBackslash' => exact absurd (List.cons.inj same).1.symm noBackslash'
    | byLetter listed' =>
      obtain ⟨sameLetter, behind⟩ := List.cons.inj (List.cons.inj same).2
      exact ⟨eq_of_letters listed (sameLetter ▸ listed'), behind⟩
    | byCode => exact absurd (List.cons.inj (List.cons.inj same).2).1 (ne_of_letters listed)
  | byCode =>
    cases writes' with
    | itself _ noBackslash' => exact absurd (List.cons.inj same).1.symm noBackslash'
    | byLetter listed' => exact absurd (List.cons.inj (List.cons.inj same).2).1.symm (ne_of_letters listed')
    | byCode =>
      simp only [List.cons_append, List.append_assoc, List.cons.injEq, true_and, List.nil_append] at same
      obtain ⟨code, behind⟩ := (append_cons_inj (brace_not_mem_hexText _) (brace_not_mem_hexText _)).mp same
      exact ⟨Char.toNat_inj.mp (hexText_inj code), behind⟩

/-- No way of writing a character starts as the end of the quotes does. -/
theorem Writes.ne_quote {c : Char} {w : List Char} (writes : Writes c w) (r r' : List Char) : w ++ r ≠ '"' :: r' := by
  cases writes with
  | itself noQuote _ =>
    intro same
    exact noQuote (List.cons.inj same).1
  | byLetter listed => simp
  | byCode => simp

/-! ## Quoted texts -/

theorem flatMap_encodeChar_inj {s s' r r' : List Char}
    (same : s.flatMap encodeChar ++ '"' :: r = s'.flatMap encodeChar ++ '"' :: r') : s = s' ∧ r = r' := by
  induction s generalizing s' with
  | nil =>
    cases s' with
    | nil => exact ⟨rfl, (List.cons.inj same).2⟩
    | cons c' s' =>
      rw [List.flatMap_cons, List.append_assoc] at same
      exact absurd same.symm ((writes_encodeChar c').ne_quote _ _)
  | cons c s ih =>
    rw [List.flatMap_cons, List.append_assoc] at same
    cases s' with
    | nil => exact absurd same ((writes_encodeChar c).ne_quote _ _)
    | cons c' s' =>
      rw [List.flatMap_cons, List.append_assoc] at same
      obtain ⟨first, rest⟩ := (writes_encodeChar c).append_inj (writes_encodeChar c') same
      obtain ⟨later, behind⟩ := ih rest
      exact ⟨by rw [first, later], behind⟩

end StreamPolicy.Text.Quoted

namespace StreamPolicy.Text

theorem toList_quote (s : String) : (quote s).toList = '"' :: (s.toList.flatMap Quoted.encodeChar ++ ['"']) := by
  rw [quote, String.toList_ofList]
  rfl

/-- A quoted text can be read off, whatever stands behind it. -/
theorem quote_append_inj {s s' : String} {r r' : List Char} :
    (quote s).toList ++ r = (quote s').toList ++ r' ↔ s = s' ∧ r = r' := by
  constructor
  · intro same
    simp only [toList_quote, List.cons_append, List.append_assoc, List.cons.injEq, true_and] at same
    obtain ⟨text, behind⟩ := Quoted.flatMap_encodeChar_inj same
    exact ⟨String.toList_inj.mp text, behind⟩
  · rintro ⟨rfl, rfl⟩
    rfl

/-! ## Lists of quoted texts -/

theorem toList_join_quote (s : String) (ss : List String) :
    (join ", " ((s :: ss).map quote)).toList = (quote s).toList ++ ss.flatMap fun t => ',' :: ' ' :: (quote t).toList := by
  have comma : ", ".toList = [',', ' '] := by decide
  induction ss generalizing s with
  | nil => simp [join]
  | cons t ss ih =>
    rw [join, List.map_cons, String.intercalate_cons_of_ne_nil (by simp), ← join, String.toList_append,
      String.toList_append, ih t, List.flatMap_cons, comma]
    simp

theorem flatMap_quote_inj {ss ss' : List String}
    (same : (ss.flatMap fun t => ',' :: ' ' :: (quote t).toList) = ss'.flatMap fun t => ',' :: ' ' :: (quote t).toList) :
    ss = ss' := by
  induction ss generalizing ss' with
  | nil =>
    cases ss' with
    | nil => rfl
    | cons t ss' => cases same
  | cons t ss ih =>
    cases ss' with
    | nil => cases same
    | cons t' ss' =>
      simp only [List.flatMap_cons, List.cons_append, List.cons.injEq, true_and] at same
      obtain ⟨first, rest⟩ := quote_append_inj.mp same
      rw [first, ih rest]

theorem quoteList_inj {ss ss' : List String} (same : quoteList ss = quoteList ss') : ss = ss' := by
  have joined : (join ", " (ss.map quote)).toList = (join ", " (ss'.map quote)).toList := by
    have whole := congrArg String.toList same
    simpa [quoteList] using whole
  cases ss with
  | nil =>
    cases ss' with
    | nil => rfl
    | cons t ss' =>
      rw [toList_join_quote, toList_quote] at joined
      cases joined
  | cons s ss =>
    cases ss' with
    | nil =>
      rw [toList_join_quote, toList_quote] at joined
      cases joined
    | cons t ss' =>
      rw [toList_join_quote, toList_join_quote] at joined
      obtain ⟨first, rest⟩ := quote_append_inj.mp joined
      rw [first, flatMap_quote_inj rest]

end StreamPolicy.Text
