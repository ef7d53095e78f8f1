import Mathlib.Data.List.TakeWhile
import StreamPolicy.Proofs.Json.Layout
import StreamPolicy.Proofs.Text.Integer

/-!
# Numbers in front of marks

A value inside an array or an object is followed by a mark or a blank, and neither can belong to a
number. So a number that is read from its text alone is read in front of them too. Integers of 64 bits
are.
-/

namespace StreamPolicy.Json

open StreamPolicy.Text

/-! ## What follows a value -/

/-- A mark that ends a value inside an array or an object, or a blank. -/
def endsValue (c : Char) : Bool :=
  isSpace c || c = ',' || c = ']' || c = '\x7d'

/-- Nothing follows, or what ends a value. -/
def Stops (rest : List Char) : Prop :=
  ∀ c ∈ rest.head?, endsValue c = true

theorem stops_nil : Stops [] :=
  nofun

theorem stops_cons {c : Char} (ends : endsValue c = true) (rest : List Char) : Stops (c :: rest) := by
  rintro d head
  cases head
  exact ends

theorem stops_append {b : List Char} (blank : Blank b) {cs : List Char} (stops : Stops cs) : Stops (b ++ cs) := by
  cases b with
  | nil => exact stops
  | cons c b => exact stops_cons (by simp [endsValue, blank c List.mem_cons_self]) (b ++ cs)

/-! ## Digits and what may follow them -/

theorem isDigit_eq {c : Char} (digit : c.isDigit = true) : isDigit c = true := by
  simpa [isDigit] using range_of_isDigit digit

theorem Stops.not_isDigit {rest : List Char} (stops : Stops rest) : ∀ c ∈ rest.head?, isDigit c = false := by
  intro c head
  have ends := stops c head
  simp only [endsValue, isSpace, Bool.or_eq_true, decide_eq_true_eq] at ends
  rcases ends with (((((rfl | rfl) | rfl) | rfl) | rfl) | rfl) | rfl <;> decide

theorem takeWhile_append_stops {rest : List Char} (stops : Stops rest) (cs : List Char) :
    (cs ++ rest).takeWhile isDigit = cs.takeWhile isDigit := by
  induction cs with
  | nil =>
    cases rest with
    | nil => rfl
    | cons c rest => simp [stops.not_isDigit c rfl]
  | cons c cs ih => by_cases digit : isDigit c <;> simp [digit, ih]

theorem dropWhile_append_stops {rest : List Char} (stops : Stops rest) (cs : List Char) :
    (cs ++ rest).dropWhile isDigit = cs.dropWhile isDigit ++ rest := by
  induction cs with
  | nil =>
    cases rest with
    | nil => rfl
    | cons c rest => simp [stops.not_isDigit c rfl]
  | cons c cs ih => by_cases digit : isDigit c <;> simp [digit, ih]

/-- The exponent that digits write behind their sign. -/
def exponentBehind? (negative : Bool) (cs : List Char) : Option (Int × List Char) :=
  (natIn? 10 (cs.takeWhile isDigit)).map fun n => (if negative then -(n : Int) else n, cs.dropWhile isDigit)

theorem exponent?_cons (c : Char) (cs : List Char) :
    exponent? (c :: cs) =
      if c = '-' then exponentBehind? true cs
      else exponentBehind? false (if c = '+' then cs else c :: cs) := by
  by_cases minus : c = '-'
  · subst minus
    rfl
  by_cases plus : c = '+'
  · subst plus
    rfl
  · simp [exponent?, exponentBehind?, minus, plus]

theorem exponentBehind?_append {cs rest : List Char} (stops : Stops rest) {negative : Bool} {e : Int} {r : List Char}
    (read : exponentBehind? negative cs = some (e, r)) :
    exponentBehind? negative (cs ++ rest) = some (e, r ++ rest) := by
  rw [exponentBehind?, takeWhile_append_stops stops, dropWhile_append_stops stops]
  obtain ⟨n, value, same⟩ := Option.map_eq_some_iff.mp read
  cases same
  rw [value, Option.map_some]

theorem exponent?_append {cs rest : List Char} (stops : Stops rest) {e : Int} {r : List Char}
    (read : exponent? cs = some (e, r)) : exponent? (cs ++ rest) = some (e, r ++ rest) := by
  cases cs with
  | nil => cases read
  | cons c cs =>
    rw [List.cons_append, exponent?_cons]
    rw [exponent?_cons] at read
    split at read
    next minus =>
      rw [if_pos minus]
      exact exponentBehind?_append stops read
    next unsigned =>
      have whole : (if c = '+' then cs ++ rest else c :: (cs ++ rest)) = (if c = '+' then cs else c :: cs) ++ rest := by
        split <;> rfl
      rw [if_neg unsigned, whole]
      exact exponentBehind?_append stops read

/-- A number and its exponent, if one follows: `marked` with an exponent, `plain` without. -/
def withExponent? (plain : Option Number) (marked : Int → Option Number) (cs : List Char) : Option (Number × List Char) :=
  if cs.head? = some 'e' ∨ cs.head? = some 'E' then
    (exponent? cs.tail).bind fun (e, rest) => (marked e).map (·, rest)
  else plain.map (·, cs)

/-- A number behind its whole part: a fraction and an exponent may follow. -/
def behindWhole? (negative : Bool) (whole cs : List Char) : Option (Number × List Char) :=
  if cs.head? = some '.' then
    let fraction := cs.tail.takeWhile isDigit
    if fraction.isEmpty then none
    else withExponent? (double? negative whole fraction 0) (double? negative whole fraction) (cs.tail.dropWhile isDigit)
  else withExponent? (integer? negative whole) (double? negative whole []) cs

theorem withExponent?_eq (plain : Option Number) (marked : Int → Option Number) (cs : List Char) :
    withExponent? plain marked cs =
      match cs with
      | 'e' :: r | 'E' :: r => (exponent? r).bind fun (e, rest) => (marked e).map (·, rest)
      | _ => plain.map (·, cs) := by
  cases cs with
  | nil => rfl
  | cons c cs =>
    by_cases small : c = 'e'
    · subst small
      rfl
    by_cases capital : c = 'E'
    · subst capital
      rfl
    · simp [withExponent?, small, capital]

theorem number?_eq (negative : Bool) (cs : List Char) :
    number? negative cs =
      let whole := cs.takeWhile isDigit
      if whole.isEmpty || (whole.head? = some '0' && whole.length > 1) then none
      else behindWhole? negative whole (cs.dropWhile isDigit) := by
  unfold number?
  generalize cs.takeWhile isDigit = whole
  dsimp only
  split
  · rfl
  cases cs.dropWhile isDigit with
  | nil => rfl
  | cons c rest =>
    by_cases point : c = '.'
    · subst point
      have behind := withExponent?_eq (double? negative whole (rest.takeWhile isDigit) 0)
        (double? negative whole (rest.takeWhile isDigit)) (rest.dropWhile isDigit)
      exact congrArg (fun read => if (rest.takeWhile isDigit).isEmpty then none else read) behind.symm
    by_cases small : c = 'e'
    · subst small
      rfl
    by_cases capital : c = 'E'
    · subst capital
      rfl
    · simp [behindWhole?, withExponent?, point, small, capital]

theorem head?_append_stops {d : Char} (other : endsValue d = false) {rest : List Char} (stops : Stops rest)
    (cs : List Char) : (cs ++ rest).head? = some d ↔ cs.head? = some d := by
  cases cs with
  | nil =>
    constructor
    · intro first
      have ends := stops d first
      rw [other] at ends
      cases ends
    · nofun
  | cons c cs => rfl

theorem tail_append_of_head? {cs : List Char} {d : Char} (first : cs.head? = some d) (rest : List Char) :
    (cs ++ rest).tail = cs.tail ++ rest := by
  cases cs with
  | nil => cases first
  | cons c cs => rfl

theorem withExponent?_append {plain : Option Number} {marked : Int → Option Number} {cs rest : List Char}
    (stops : Stops rest) {n : Number} {r : List Char} (read : withExponent? plain marked cs = some (n, r)) :
    withExponent? plain marked (cs ++ rest) = some (n, r ++ rest) := by
  have small : (cs ++ rest).head? = some 'e' ↔ cs.head? = some 'e' := head?_append_stops (by decide) stops cs
  have capital : (cs ++ rest).head? = some 'E' ↔ cs.head? = some 'E' := head?_append_stops (by decide) stops cs
  simp only [withExponent?, small, capital] at read ⊢
  split at read
  next mark =>
    obtain ⟨⟨e, left⟩, exponent, read⟩ := Option.bind_eq_some_iff.mp read
    obtain ⟨n, value, same⟩ := Option.map_eq_some_iff.mp read
    cases same
    have behind : (cs ++ rest).tail = cs.tail ++ rest :=
      mark.elim (tail_append_of_head? · rest) (tail_append_of_head? · rest)
    rw [if_pos mark, behind, exponent?_append stops exponent, Option.bind_some, value, Option.map_some]
  next other =>
    obtain ⟨n, value, same⟩ := Option.map_eq_some_iff.mp read
    cases same
    rw [if_neg other, value, Option.map_some]

theorem behindWhole?_append {negative : Bool} {whole cs rest : List Char} (stops : Stops rest) {n : Number} {r : List Char}
    (read : behindWhole? negative whole cs = some (n, r)) :
    behindWhole? negative whole (cs ++ rest) = some (n, r ++ rest) := by
  have first : (cs ++ rest).head? = some '.' ↔ cs.head? = some '.' := head?_append_stops (by decide) stops cs
  simp only [behindWhole?, first] at read ⊢
  split at read
  next point =>
    rw [if_pos point, tail_append_of_head? point, takeWhile_append_stops stops, dropWhile_append_stops stops]
    split at read
    · contradiction
    next fraction =>
      rw [if_neg fraction]
      exact withExponent?_append stops read
  next other =>
    rw [if_neg other]
    exact withExponent?_append stops read

/-- A number that is read alone is read in front of a mark that ends it. -/
theorem number?_append {cs rest : List Char} (stops : Stops rest) {negative : Bool} {n : Number} {r : List Char}
    (read : number? negative cs = some (n, r)) : number? negative (cs ++ rest) = some (n, r ++ rest) := by
  rw [number?_eq] at read ⊢
  rw [takeWhile_append_stops stops, dropWhile_append_stops stops]
  dsimp only at read ⊢
  split at read
  · contradiction
  next digits =>
    rw [if_neg digits]
    exact behindWhole?_append stops read

/-! ## Numbers that are read back -/

/-- The number at the front of a text, with its sign. -/
def readNumber? : List Char → Option (Number × List Char)
  | '-' :: r => number? true r
  | cs => number? false cs

theorem readNumber?_of_isDigit {c : Char} (digit : isDigit c = true) (cs : List Char) :
    readNumber? (c :: cs) = number? false (c :: cs) := by
  unfold readNumber?
  split
  next same =>
    cases same
    exact absurd digit (by decide)
  · rfl

/-- A number is read back from its text, as it is. -/
def Number.Legible (n : Number) : Prop :=
  readNumber? n.text.toList = some (n, [])

instance : DecidablePred Number.Legible :=
  fun n => inferInstanceAs (Decidable (readNumber? n.text.toList = some (n, [])))

theorem isDigit_of_number? {negative : Bool} {cs : List Char} {n : Number} {r : List Char}
    (read : number? negative cs = some (n, r)) : ∃ c rest, cs = c :: rest ∧ isDigit c = true := by
  rw [number?_eq] at read
  cases cs with
  | nil => cases read
  | cons c rest =>
    by_cases digit : isDigit c = true
    · exact ⟨c, rest, rfl, digit⟩
    · simp [digit] at read

theorem number?_toDigits (negative : Bool) (n : Nat) :
    number? negative (Nat.toDigits 10 n) = (integer? negative (Nat.toDigits 10 n)).map (·, []) := by
  have digits : ∀ c ∈ Nat.toDigits 10 n, isDigit c = true := fun c member => isDigit_eq (isDigit_of_mem_toDigits member)
  have all : (Nat.toDigits 10 n).takeWhile isDigit = Nat.toDigits 10 n := List.takeWhile_eq_self_iff.mpr digits
  have none : (Nat.toDigits 10 n).dropWhile isDigit = [] := List.dropWhile_eq_nil_iff.mpr digits
  have plain : ¬ ((Nat.toDigits 10 n).isEmpty ||
      ((Nat.toDigits 10 n).head? = some '0' && (Nat.toDigits 10 n).length > 1)) = true := by
    by_cases zero : n = 0
    · simp [zero]
    · simp [head?_toDigits_ne zero]
  rw [number?_eq, all, none]
  dsimp only
  rw [if_neg plain]
  rfl

theorem integer?_toDigits (n : Nat) (small : n ≤ uint64Max) :
    integer? false (Nat.toDigits 10 n) = some (.int n) := by
  simp [integer?, natIn?_toDigits, Nat.not_lt.mpr small]

theorem integer?_negative_toDigits {n : Nat} (some : n ≠ 0) (small : n ≤ 9223372036854775808) :
    integer? true (Nat.toDigits 10 n) = .some (.int (-n)) := by
  have fits : ¬ n > uint64Max := by
    rw [uint64Max]
    omega
  simp [integer?, natIn?_toDigits, fits, some, Nat.not_lt.mpr small]

/-- An integer of 64 bits, with sign or without, is read back. -/
theorem Number.legible_int {n : Int} (low : -9223372036854775808 ≤ n) (high : n ≤ uint64Max) :
    (Number.int n).Legible := by
  rw [Legible, text, ofInt]
  split
  next negative =>
    have value : -(n.natAbs : Int) = n := by omega
    rw [String.toList_append, Nat.toList_repr]
    show number? true (Nat.toDigits 10 n.natAbs) = _
    rw [number?_toDigits, integer?_negative_toDigits (by omega) (by omega), value]
    rfl
  next positive =>
    have value : (n.natAbs : Int) = n := by omega
    have read : number? false (Nat.toDigits 10 n.natAbs) = some (.int n, []) := by
      rw [number?_toDigits, integer?_toDigits _ (by omega), value]
      rfl
    obtain ⟨c, rest, written, digit⟩ := isDigit_of_number? read
    rw [written] at read
    rw [Nat.toList_repr, written, readNumber?_of_isDigit digit, read]

end StreamPolicy.Json
