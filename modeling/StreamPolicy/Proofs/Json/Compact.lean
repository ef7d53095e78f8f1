import StreamPolicy.Json.Printer
import StreamPolicy.Proofs.Text.Integer

/-!
# Compact text on one line

Whatever a value holds, its compact text has no control character: those of texts are escaped, and all
else is written with marks, digits and letters.
-/

namespace StreamPolicy.Json

open StreamPolicy.Text

/-- A text without control characters. -/
def Printed (cs : List Char) : Prop :=
  ∀ c ∈ cs, 0x20 ≤ c.toNat

instance : DecidablePred Printed :=
  fun cs => decidable_of_iff (cs.all fun c => 0x20 ≤ c.toNat) (by simp [Printed])

@[simp] theorem printed_nil : Printed [] :=
  nofun

@[simp] theorem printed_cons {c : Char} {cs : List Char} : Printed (c :: cs) ↔ 0x20 ≤ c.toNat ∧ Printed cs :=
  List.forall_mem_cons

@[simp] theorem printed_append {a b : List Char} : Printed (a ++ b) ↔ Printed a ∧ Printed b :=
  List.forall_mem_append

theorem printed_of_subset {a b : List Char} (printed : Printed b) (inside : a ⊆ b) : Printed a :=
  fun c member => printed c (inside member)

theorem printed_replicate {c : Char} (plain : 0x20 ≤ c.toNat) (n : Nat) : Printed (List.replicate n c) := by
  intro d member
  rwa [List.eq_of_mem_replicate member]

/-! ## Numbers -/

theorem printed_toDigits (n : Nat) : Printed (Nat.toDigits 10 n) := by
  intro c member
  have digit : c.isDigit = true := isDigit_of_mem_toDigits member
  have range := range_of_isDigit digit
  exact Nat.le_trans (by decide) (UInt32.le_iff_toNat_le.mp range.1)

theorem printed_ofInt (n : Int) : Printed (ofInt n).toList := by
  rw [ofInt]
  split
  · rw [String.toList_append, Nat.toList_repr, printed_append]
    exact ⟨by decide, printed_toDigits _⟩
  · rw [Nat.toList_repr]
    exact printed_toDigits _

theorem printed_pointed {ds : List Char} (digits : Printed ds) (whole : Int) : Printed (Decimal.pointed ds whole) := by
  have zeros := printed_replicate (c := '0') (by decide)
  have point : 0x20 ≤ '.'.toNat := by decide
  rw [Decimal.pointed]
  split
  · simp only [printed_append]
    exact ⟨⟨by decide, zeros _⟩, digits⟩
  · have before : Printed (ds.take whole.toNat) := printed_of_subset digits (List.take_subset _ _)
    have behind : Printed (ds.drop whole.toNat) := printed_of_subset digits (List.drop_subset _ _)
    simp only [printed_append, printed_cons]
    refine ⟨⟨before, zeros _⟩, point, ?_⟩
    split
    · decide
    · exact behind

theorem printed_layout {l : Decimal.Layout} (plus : Printed l.plus.toList) (s : Decimal.Scientific) :
    Printed (l.text s) := by
  have digits := printed_toDigits
  rw [Decimal.Layout.text]
  dsimp only
  split
  · exact printed_pointed (digits _) _
  · simp only [printed_append, printed_cons]
    refine ⟨⟨?_, by decide, ?_⟩, digits _⟩
    · split
      · exact digits _
      · simp only [printed_append, printed_cons]
        exact ⟨printed_of_subset (digits _) (List.take_subset _ _), by decide,
          printed_of_subset (digits _) (List.drop_subset _ _)⟩
    · split
      · decide
      · exact plus

theorem printed_number (n : Number) : Printed n.text.toList := by
  cases n with
  | int n => exact printed_ofInt n
  | float bits =>
    rw [Number.text]
    split
    · simp only [Decimal.Layout.ofBits, String.toList_ofList, printed_append]
      constructor
      · split <;> decide
      · split
        · decide
        · exact printed_layout (by decide) _
    · decide

/-! ## Texts -/

theorem printed_hexPair {n : Nat} (control : n < 0x20) : Printed (hexPair n) := by
  revert n
  decide

theorem printed_escapeChar (c : Char) : Printed (escapeChar c) := by
  unfold escapeChar
  split
  · decide
  split
  · decide
  split
  · decide
  split
  · decide
  split
  · decide
  split
  · decide
  split
  · decide
  split
  next control =>
    rw [printed_append]
    exact ⟨by decide, printed_hexPair control⟩
  next plain => simpa using plain

theorem printed_quoteChars (s : List Char) : Printed (quoteChars s) := by
  have inner : Printed (s.flatMap escapeChar) := by
    intro c member
    obtain ⟨d, -, escaped⟩ := List.mem_flatMap.mp member
    exact printed_escapeChar d c escaped
  simp only [quoteChars, printed_cons, printed_append]
  exact ⟨by decide, inner, by decide⟩

/-! ## Values -/

mutual

/-- The compact text of a value has no control character. -/
theorem Value.printed_compactChars : (v : Value) → Printed v.compactChars
  | .null | .bool true | .bool false => by simp only [Value.compactChars]; decide
  | .num n => by simpa only [Value.compactChars] using printed_number n
  | .str s => by simpa only [Value.compactChars] using printed_quoteChars s.toList
  | .arr items => by
    simp only [Value.compactChars, printed_cons, printed_append]
    exact ⟨by decide, printed_compactItems items, by decide⟩
  | .obj ms => by
    simp only [Value.compactChars, printed_cons, printed_append]
    exact ⟨by decide, printed_compactMembers ms, by decide⟩

theorem printed_compactItems : (items : List Value) → Printed (compactItems items)
  | [] => by simp [compactItems]
  | [v] => by simpa only [compactItems] using v.printed_compactChars
  | v :: w :: rest => by
    simp only [compactItems, printed_append, printed_cons]
    exact ⟨v.printed_compactChars, by decide, printed_compactItems (w :: rest)⟩

theorem printed_compactMembers : (ms : List (String × Value)) → Printed (compactMembers ms)
  | [] => by simp [compactMembers]
  | [(k, v)] => by
    simp only [compactMembers, printed_append, printed_cons]
    exact ⟨printed_quoteChars k.toList, by decide, v.printed_compactChars⟩
  | (k, v) :: m :: rest => by
    simp only [compactMembers, printed_append, printed_cons]
    exact ⟨printed_quoteChars k.toList, by decide, v.printed_compactChars, by decide,
      printed_compactMembers (m :: rest)⟩

end

theorem Value.newline_not_mem_compactChars (v : Value) : '\n' ∉ v.compactChars :=
  fun member => absurd (v.printed_compactChars _ member) (by decide)

end StreamPolicy.Json
