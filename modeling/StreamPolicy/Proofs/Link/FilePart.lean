import StreamPolicy.Link.Url
import StreamPolicy.Proofs.Text.Search

/-!
# Where the file path of a link lies

A link is a row of segments with slashes between them. The file path stands behind the first segment
that is a marker, be it the host or a directory, up to the end of its line.
-/

namespace StreamPolicy.Link

open StreamPolicy.Text

/-- The segments behind which a file path stands. -/
def markers : List (List Char) := ["False".toList, "d".toList]

theorem afterMarker?_eq (s : List Char) :
    afterMarker? s = (after? ('/' :: ("False".toList ++ ['/'])) s).or (after? ('/' :: ("d".toList ++ ['/'])) s) := by
  have long : "/False/".toList = '/' :: ("False".toList ++ ['/']) := by decide
  have short : "/d/".toList = '/' :: ("d".toList ++ ['/']) := by decide
  rw [afterMarker?, long, short]
  cases after? ('/' :: ("False".toList ++ ['/'])) s <;> rfl

theorem afterMarker?_cons_of_ne {c : Char} (other : c ≠ '/') (s : List Char) : afterMarker? (c :: s) = none := by
  have first (needle : List Char) : after? ('/' :: needle) (c :: s) = none := by
    rw [after?, if_neg (Ne.symm other)]
  rw [afterMarker?_eq, first, first, Option.or_none]

theorem after?_segment {marker seg : List Char} (slashless : '/' ∉ marker) (whole : '/' ∉ seg) (rest : List Char) :
    after? ('/' :: (marker ++ ['/'])) ('/' :: (seg ++ '/' :: rest)) = if seg = marker then some rest else none := by
  have divided (r : List Char) :
      '/' :: (seg ++ '/' :: rest) = '/' :: (marker ++ ['/']) ++ r ↔ seg = marker ∧ rest = r := by
    rw [List.cons_append, List.append_assoc, List.singleton_append, List.cons.injEq, append_cons_inj whole slashless]
    exact and_iff_right rfl
  split
  next same => exact after?_eq_some_iff.mpr ((divided rest).mpr ⟨same, rfl⟩)
  next differ =>
    rw [Option.eq_none_iff_forall_ne_some]
    intro r found
    exact differ ((divided r).mp (after?_eq_some_iff.mp found)).1

theorem afterMarker?_segment {seg : List Char} (whole : '/' ∉ seg) (rest : List Char) :
    afterMarker? ('/' :: (seg ++ '/' :: rest)) = if seg ∈ markers then some rest else none := by
  rw [afterMarker?_eq, after?_segment (by decide) whole, after?_segment (by decide) whole, markers]
  by_cases first : seg = "False".toList
  · simp [first]
  · rw [if_neg first, Option.none_or]
    simp only [List.mem_cons, List.not_mem_nil, or_false, first, false_or]

theorem filePart?_append_of_not_mem {a : List Char} (slashless : '/' ∉ a) (b : List Char) :
    filePart? (a ++ b) = filePart? b := by
  induction a with
  | nil => rfl
  | cons c a ih =>
    obtain ⟨other, later⟩ := List.ne_and_not_mem_of_not_mem_cons slashless
    rw [List.cons_append, filePart?, afterMarker?_cons_of_ne (Ne.symm other), ih later]

/-- A segment that is a marker opens the file path, and any other is passed over. -/
theorem filePart?_segment {seg : List Char} (whole : '/' ∉ seg) (rest : List Char) :
    filePart? ('/' :: (seg ++ '/' :: rest)) =
      if seg ∈ markers then some (rest.takeWhile (· ≠ '\n')) else filePart? ('/' :: rest) := by
  rw [filePart?, afterMarker?_segment whole]
  by_cases marker : seg ∈ markers
  · rw [if_pos marker, if_pos marker]
  · rw [if_neg marker, if_neg marker]
    exact filePart?_append_of_not_mem whole _

/-- The file path of a link is part of it. -/
theorem infix_of_filePart? {s part : List Char} (found : filePart? s = some part) : part <:+: s := by
  induction s with
  | nil => cases found
  | cons c s ih =>
    rw [filePart?] at found
    split at found
    next r opens =>
      cases found
      have behind : r <:+ c :: s := by
        rw [afterMarker?_eq, Option.or_eq_some_iff] at opens
        rcases opens with long | ⟨_, short⟩
        · exact ⟨_, (after?_eq_some_iff.mp long).symm⟩
        · exact ⟨_, (after?_eq_some_iff.mp short).symm⟩
      exact (List.takeWhile_prefix _).isInfix.trans behind.isInfix
    next => exact (ih found).trans (List.suffix_cons c s).isInfix

end StreamPolicy.Link
