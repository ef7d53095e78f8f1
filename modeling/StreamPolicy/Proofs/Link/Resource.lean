import Mathlib.Data.List.Infix
import StreamPolicy.Link.Signing
import StreamPolicy.Proofs.Text.Search

/-!
# Where the resource path of a link lies

The tail of a link is what stands from the slash behind its host on: its resource path, and the
query and fragment behind that. What is put behind a link comes to stand at the end of its tail.
-/

namespace StreamPolicy.Link

open StreamPolicy.Text

/-- The two schemes of a link. -/
def schemes : List (List Char) := ["https://".toList, "http://".toList]

/-- The tail of a link that starts at the front of a text. -/
def tailHere? (s : List Char) : Option (List Char) :=
  match afterScheme? s with
  | none => none
  | some r =>
    if (r.takeWhile (· ≠ '/')).isEmpty then none
    else
      match r.dropWhile (· ≠ '/') with
      | [] => none
      | tail => some tail

/-- The tail of the first link in a text. -/
def tail? : List Char → Option (List Char)
  | [] => none
  | c :: cs =>
    match tailHere? (c :: cs) with
    | some tail => some tail
    | none => tail? cs

/-- The resource path at the front of a tail. -/
def pathOf (tail : List Char) : List Char :=
  tail.takeWhile fun c => c ≠ '?' && c ≠ '#'

theorem resourceHere?_eq (s : List Char) : resourceHere? s = (tailHere? s).map pathOf := by
  rw [resourceHere?, tailHere?]
  cases afterScheme? s with
  | none => rfl
  | some r =>
    dsimp only
    split
    · rfl
    · cases r.dropWhile (· ≠ '/') <;> rfl

/-- The resource path of a link is the front of its tail. -/
theorem resource?_eq (s : List Char) : resource? s = (tail? s).map pathOf := by
  induction s with
  | nil => rfl
  | cons c cs ih =>
    rw [resource?, tail?, resourceHere?_eq, ih]
    cases tailHere? (c :: cs) <;> rfl

/-! ## Where a path ends -/

theorem not_mem_pathOf (tail : List Char) : '?' ∉ pathOf tail ∧ '#' ∉ pathOf tail :=
  ⟨fun member => by simpa using List.mem_takeWhile_imp member,
    fun member => by simpa using List.mem_takeWhile_imp member⟩

theorem pathOf_append_of_plain {piece : List Char} (question : '?' ∉ piece) (number : '#' ∉ piece)
    (rest : List Char) : pathOf (piece ++ rest) = piece ++ pathOf rest := by
  have plain : ∀ c ∈ piece, (c ≠ '?' && c ≠ '#') = true := by
    intro c member
    have first : c ≠ '?' := fun same => question (same ▸ member)
    have second : c ≠ '#' := fun same => number (same ▸ member)
    simp [first, second]
  exact List.takeWhile_append_of_pos plain

theorem pathOf_eq_self_iff {tail : List Char} : pathOf tail = tail ↔ '?' ∉ tail ∧ '#' ∉ tail := by
  constructor
  · intro whole
    have plain := not_mem_pathOf tail
    rwa [whole] at plain
  · rintro ⟨question, number⟩
    calc pathOf tail
        = pathOf (tail ++ []) := by rw [List.append_nil]
      _ = tail ++ pathOf [] := pathOf_append_of_plain question number []
      _ = tail := List.append_nil tail

/-! ## Where a link starts -/

theorem afterScheme?_eq_some_iff {s r : List Char} :
    afterScheme? s = some r ↔ ∃ scheme ∈ schemes, s = scheme ++ r := by
  simp only [schemes, List.mem_cons, List.not_mem_nil, or_false, exists_eq_or_imp, exists_eq_left]
  rw [afterScheme?]
  cases secure : after? "https://".toList s with
  | some r' =>
    rw [after?_eq_some_iff] at secure
    subst secure
    simp [eq_comm]
  | none =>
    have insecure : ¬ s = "https://".toList ++ r := by
      intro starts
      rw [after?_eq_some_iff.mpr starts] at secure
      cases secure
    rw [after?_eq_some_iff]
    exact (or_iff_right insecure).symm

/-- A link at the front of a text: a scheme, a host that is not empty and holds no slash, and a tail
that starts with one. -/
theorem tailHere?_eq_some_iff {s tail : List Char} :
    tailHere? s = some tail ↔ ∃ scheme ∈ schemes, ∃ host rest,
      host ≠ [] ∧ '/' ∉ host ∧ tail = '/' :: rest ∧ s = scheme ++ (host ++ tail) := by
  constructor
  · intro found
    rw [tailHere?] at found
    split at found
    · cases found
    next r starts =>
      obtain ⟨scheme, known, rfl⟩ := afterScheme?_eq_some_iff.mp starts
      by_cases slash : '/' ∈ r
      · obtain ⟨host, rest, rfl, whole⟩ := List.eq_append_cons_of_mem slash
        rw [takeWhile_ne_append_cons whole, dropWhile_ne_append_cons whole] at found
        split at found
        · cases found
        next inhabited =>
          cases found
          exact ⟨scheme, known, host, rest, by simpa using inhabited, whole, rfl, rfl⟩
      · rw [dropWhile_ne_of_not_mem slash] at found
        simp at found
  · rintro ⟨scheme, known, host, rest, inhabited, whole, rfl, rfl⟩
    rw [tailHere?, afterScheme?_eq_some_iff.mpr ⟨scheme, known, rfl⟩]
    dsimp only
    rw [takeWhile_ne_append_cons whole, dropWhile_ne_append_cons whole, if_neg (by simpa using inhabited)]

theorem count_scheme {scheme : List Char} (known : scheme ∈ schemes) : scheme.count '/' = 2 := by
  revert scheme
  decide

/-- A link has three slashes. -/
theorem three_le_count {s tail : List Char} (found : tail? s = some tail) : 3 ≤ s.count '/' := by
  induction s with
  | nil => cases found
  | cons c s ih =>
    rw [tail?] at found
    split at found
    next _ here =>
      cases found
      obtain ⟨scheme, known, host, rest, _, _, rfl, split⟩ := tailHere?_eq_some_iff.mp here
      rw [split, List.count_append, List.count_append, List.count_cons_self, count_scheme known]
      omega
    next => exact (ih found).trans (List.count_le_count_cons)

theorem tail?_suffix {s tail : List Char} (found : tail? s = some tail) : tail <:+ s := by
  induction s with
  | nil => cases found
  | cons c s ih =>
    rw [tail?] at found
    split at found
    next _ here =>
      cases found
      obtain ⟨scheme, _, host, _, _, _, _, split⟩ := tailHere?_eq_some_iff.mp here
      exact ⟨scheme ++ host, by rw [split, List.append_assoc]⟩
    next => exact (ih found).trans (List.suffix_cons c s)

/-! ## What is put behind a link -/

/-- Where no link starts, none starts when more is put behind a text that has a link further on: its
third slash would have to be part of the host. -/
theorem tailHere?_append_eq_none {s more : List Char} (slashes : 3 ≤ s.count '/') (none : tailHere? s = none) :
    tailHere? (s ++ more) = Option.none := by
  cases found : tailHere? (s ++ more) with
  | none => rfl
  | some tail =>
    obtain ⟨scheme, known, host, rest, inhabited, whole, rfl, split⟩ := tailHere?_eq_some_iff.mp found
    have start : scheme ++ host ++ ['/'] <+: s ++ more := ⟨rest, by simp [split]⟩
    have starts {b : List Char} (whole' : s = scheme ++ host ++ ['/'] ++ b) : tailHere? s = some ('/' :: b) :=
      tailHere?_eq_some_iff.mpr ⟨scheme, known, host, b, inhabited, whole, rfl, by simp [whole']⟩
    rcases List.prefix_or_prefix_of_prefix start (List.prefix_append s more) with ⟨b, inside⟩ | reaches
    · rw [starts inside.symm] at none
      cases none
    · rcases List.prefix_concat_iff.mp reaches with ends | within
      · rw [starts (b := []) (by simpa using ends)] at none
        cases none
      · have few := within.sublist.count_le '/'
        rw [List.count_append, count_scheme known, List.count_eq_zero.mpr whole] at few
        omega

theorem tail?_append {s tail : List Char} (found : tail? s = some tail) (more : List Char) :
    tail? (s ++ more) = some (tail ++ more) := by
  induction s with
  | nil => cases found
  | cons c s ih =>
    have slashes := three_le_count found
    rw [tail?] at found
    rw [List.cons_append, tail?, ← List.cons_append]
    split at found
    next _ here =>
      cases found
      obtain ⟨scheme, known, host, rest, inhabited, whole, rfl, split⟩ := tailHere?_eq_some_iff.mp here
      have there : tailHere? (c :: s ++ more) = some ('/' :: rest ++ more) :=
        tailHere?_eq_some_iff.mpr ⟨scheme, known, host, rest ++ more, inhabited, whole, rfl, by simp [split]⟩
      rw [there]
    next none =>
      rw [tailHere?_append_eq_none slashes none]
      exact ih found

/-- The tail of a link that starts at the front. -/
theorem tail?_of_scheme {scheme host rest : List Char} (known : scheme ∈ schemes) (inhabited : host ≠ [])
    (whole : '/' ∉ host) : tail? (scheme ++ (host ++ '/' :: rest)) = some ('/' :: rest) := by
  have here : tailHere? (scheme ++ (host ++ '/' :: rest)) = some ('/' :: rest) :=
    tailHere?_eq_some_iff.mpr ⟨scheme, known, host, rest, inhabited, whole, rfl, rfl⟩
  cases text : scheme ++ (host ++ '/' :: rest) with
  | nil => simp at text
  | cons c cs => rw [tail?, ← text, here]

end StreamPolicy.Link
