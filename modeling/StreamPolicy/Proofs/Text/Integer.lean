import Mathlib.Data.Nat.Digits.Defs
import StreamPolicy.Text.Integer

/-!
# Numbers read back

A number that was written in decimal is read as that number, with zeros in front of it or without.
-/

namespace StreamPolicy.Text

theorem range_of_isDigit {c : Char} (digit : c.isDigit = true) : '0' ≤ c ∧ c ≤ '9' := by
  simpa [Char.isDigit, Char.le_def] using digit

theorem digitIn?_ten_of_isDigit {c : Char} (digit : c.isDigit = true) : digitIn? 10 c = some (c.toNat - 48) := by
  have range := range_of_isDigit digit
  have small : c.toNat - 48 < 10 := by
    have most : c.toNat ≤ 57 := UInt32.le_iff_toNat_le.mp range.2
    omega
  simp [digitIn?, range, small]

/-- A run of digits is read as the number that it writes. -/
theorem natIn?_of_digits {cs : List Char} (inhabited : cs ≠ []) (digits : ∀ c ∈ cs, c.isDigit = true) :
    natIn? 10 cs = some (Nat.ofDigitChars 10 cs 0) := by
  have fold : ∀ n : Nat, cs.foldlM (fun n c => (digitIn? 10 c).map (n * 10 + ·)) n = some (Nat.ofDigitChars 10 cs n) := by
    clear inhabited
    induction cs with
    | nil => exact fun n => rfl
    | cons c cs ih =>
      intro n
      obtain ⟨first, others⟩ := List.forall_mem_cons.mp digits
      rw [List.foldlM_cons, digitIn?_ten_of_isDigit first, Nat.ofDigitChars_cons, Nat.mul_comm 10 n]
      exact ih others _
  rw [natIn?, if_neg (by simpa using inhabited), fold]

theorem isDigit_of_mem_toDigits {n : Nat} {c : Char} (member : c ∈ Nat.toDigits 10 n) : c.isDigit = true :=
  Nat.isDigit_of_mem_toDigits (by decide) (by decide) member

theorem ofDigitChars_zeros (width : Nat) (cs : List Char) :
    Nat.ofDigitChars 10 (List.replicate width '0' ++ cs) 0 = Nat.ofDigitChars 10 cs 0 := by
  induction width with
  | zero => rfl
  | succ width ih =>
    rw [List.replicate_succ, List.cons_append, Nat.ofDigitChars_cons]
    exact ih

/-- A number is read back, however many zeros stand in front of it. -/
theorem natIn?_zeros_toDigits (width n : Nat) :
    natIn? 10 (List.replicate width '0' ++ Nat.toDigits 10 n) = some n := by
  rw [natIn?_of_digits, ofDigitChars_zeros, Nat.ofDigitChars_toDigits (by decide) (by decide)]
  · simp [Nat.toDigits_ne_nil]
  · intro c member
    rcases List.mem_append.mp member with zero | digit
    · rw [List.eq_of_mem_replicate zero]
      rfl
    · exact isDigit_of_mem_toDigits digit

theorem natIn?_toDigits (n : Nat) : natIn? 10 (Nat.toDigits 10 n) = some n :=
  natIn?_zeros_toDigits 0 n

/-- No number but zero is written with a zero in front. -/
theorem head?_toDigits_ne {n : Nat} (positive : n ≠ 0) : (Nat.toDigits 10 n).head? ≠ some '0' := by
  induction n using Nat.strongRecOn with
  | ind n ih =>
    rw [Nat.toDigits_eq_if (by decide)]
    split
    next small =>
      intro zero
      have value := congrArg Char.toNat (Option.some.inj zero)
      rw [Nat.toNat_digitChar_of_lt_ten small] at value
      simp at value
      omega
    next large =>
      have front := ih (n / 10) (by omega) (by omega)
      cases written : Nat.toDigits 10 (n / 10) with
      | nil => exact absurd written Nat.toDigits_ne_nil
      | cons c rest => rwa [written] at front

theorem toList_ofNat (n : Nat) : (ofNat n).toList = Nat.toDigits 10 n :=
  Nat.toList_repr

/-- A number of 64 bits is read back. -/
theorem uint64?_ofNat {n : Nat} (small : n ≤ uint64Max) : uint64? (ofNat n) = some n := by
  have sign {c : Char} (mark : c.isDigit = false) (r : List Char) : Nat.toDigits 10 n ≠ c :: r := by
    intro first
    have digit : c.isDigit = true := isDigit_of_mem_toDigits (n := n) (by simp [first])
    rw [mark] at digit
    cases digit
  have read : intIn? 10 0 uint64Max (Nat.toDigits 10 n) = some (n : Int) := by
    unfold intIn?
    split
    next r minus => exact absurd minus (sign rfl r)
    next r plus => exact absurd plus (sign rfl r)
    next => simp [natIn?_toDigits, Option.filter, small]
  rw [uint64?, toList_ofNat, read]
  rfl

end StreamPolicy.Text
