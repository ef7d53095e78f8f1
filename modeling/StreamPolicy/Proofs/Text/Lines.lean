import Mathlib.Data.List.Infix

/-!
# Lines of bytes

Bytes are complete lines and a rest without a line end, in one way. Lines that are added behind such a rest
are lines of their own only when there is no rest: otherwise the first of them becomes part of it.
-/

namespace StreamPolicy.Text

/-- The line end. -/
def lineEnd : UInt8 := 10

/-- The pieces between line ends, without the last one, which no line end closes. -/
def completeLines (bytes : List UInt8) : List (List UInt8) :=
  (bytes.splitOn lineEnd).dropLast

/-- Nothing, or something that ends with a line end. -/
def Ended (bytes : List UInt8) : Prop :=
  bytes = [] ∨ bytes.getLast? = some lineEnd

/-- Lines as bytes. -/
def joinLines (lines : List (List UInt8)) : List UInt8 :=
  lines.flatMap (· ++ [lineEnd])

theorem joinLines_cons (line : List UInt8) (lines : List (List UInt8)) :
    joinLines (line :: lines) = line ++ lineEnd :: joinLines lines := by
  rw [joinLines, List.flatMap_cons, List.append_assoc, List.singleton_append, joinLines]

theorem joinLines_append (a b : List (List UInt8)) : joinLines (a ++ b) = joinLines a ++ joinLines b :=
  List.flatMap_append

/-- All bytes are complete lines and a rest. -/
theorem exists_lines (bytes : List UInt8) :
    ∃ lines rest, bytes = joinLines lines ++ rest ∧ (∀ line ∈ lines, lineEnd ∉ line) ∧ lineEnd ∉ rest := by
  induction bytes with
  | nil => exact ⟨[], [], rfl, nofun, nofun⟩
  | cons b bytes ih =>
    obtain ⟨lines, rest, rfl, plain, open_⟩ := ih
    by_cases ends : lineEnd = b
    · exact ⟨[] :: lines, rest, by rw [joinLines_cons, ends]; rfl, List.forall_mem_cons.mpr ⟨nofun, plain⟩, open_⟩
    · cases lines with
      | nil => exact ⟨[], b :: rest, rfl, nofun, by simp [ends, open_]⟩
      | cons line lines =>
        obtain ⟨first, others⟩ := List.forall_mem_cons.mp plain
        exact ⟨(b :: line) :: lines, rest, by simp [joinLines_cons],
          List.forall_mem_cons.mpr ⟨by simp [ends, first], others⟩, open_⟩

theorem completeLines_joinLines {lines : List (List UInt8)} (plain : ∀ line ∈ lines, lineEnd ∉ line) {rest : List UInt8}
    (open_ : lineEnd ∉ rest) : completeLines (joinLines lines ++ rest) = lines := by
  induction lines with
  | nil => rw [joinLines, List.flatMap_nil, List.nil_append, completeLines, List.splitOn_eq_singleton open_]; rfl
  | cons line lines ih =>
    obtain ⟨first, others⟩ := List.forall_mem_cons.mp plain
    have further := ih others
    rw [completeLines] at further ⊢
    rw [joinLines_cons, List.append_assoc, List.cons_append, List.splitOn_append_cons_self_of_not_mem first,
      List.dropLast_cons_of_ne_nil (List.splitOn_ne_nil _ _), further]

theorem ended_joinLines_append_iff (lines : List (List UInt8)) {rest : List UInt8} (open_ : lineEnd ∉ rest) :
    Ended (joinLines lines ++ rest) ↔ rest = [] := by
  constructor
  · rintro (empty | last)
    · exact (List.append_eq_nil_iff.mp empty).2
    · rcases List.eq_nil_or_concat rest with empty | ⟨front, b, rfl⟩
      · exact empty
      · have ends : b = lineEnd := by simpa using last
        exact absurd (by simp [ends]) open_
  · rintro rfl
    rw [List.append_nil]
    rcases List.eq_nil_or_concat lines with rfl | ⟨front, line, rfl⟩
    · exact .inl rfl
    · right
      rw [List.concat_eq_append, joinLines_append, joinLines_cons]
      simp [joinLines]

/-- Lines that are added to some bytes are complete lines behind those that were there, but the first of them is one
with what was unfinished. -/
theorem exists_completeLines_append {line : List UInt8} {lines : List (List UInt8)}
    (plain : ∀ l ∈ line :: lines, lineEnd ∉ l) (old : List UInt8) :
    ∃ rest, completeLines (old ++ joinLines (line :: lines)) = completeLines old ++ (rest ++ line) :: lines ∧
      (rest = [] ↔ Ended old) := by
  obtain ⟨before, rest, rfl, whole, open_⟩ := exists_lines old
  obtain ⟨first, others⟩ := List.forall_mem_cons.mp plain
  have all : ∀ l ∈ before ++ (rest ++ line) :: lines, lineEnd ∉ l :=
    List.forall_mem_append.mpr ⟨whole, List.forall_mem_cons.mpr ⟨by simp [open_, first], others⟩⟩
  have glued : joinLines before ++ rest ++ joinLines (line :: lines) = joinLines (before ++ (rest ++ line) :: lines) ++ [] := by
    simp [joinLines_cons, joinLines_append]
  refine ⟨rest, ?_, (ended_joinLines_append_iff before open_).symm⟩
  rw [glued, completeLines_joinLines all List.not_mem_nil, completeLines_joinLines whole open_]

/-- Lines that are added to some bytes are complete lines of their own, behind those that were there, exactly
when nothing unfinished was there. -/
theorem suffix_completeLines_iff {lines : List (List UInt8)} (plain : ∀ l ∈ lines, lineEnd ∉ l) (old : List UInt8) :
    lines <:+ completeLines (old ++ joinLines lines) ↔ lines = [] ∨ Ended old := by
  cases lines with
  | nil => simp
  | cons line lines =>
    obtain ⟨rest, split, finished⟩ := exists_completeLines_append plain old
    rw [split, ← finished]
    constructor
    · rintro ⟨front, same⟩
      obtain ⟨-, same⟩ := List.append_inj' same rfl
      have unchanged : line = rest ++ line := (List.cons_eq_cons.mp same).1
      exact .inr (List.self_eq_append_left.mp unchanged)
    · rintro (none | rfl)
      · cases none
      · exact List.suffix_append (completeLines old) (line :: lines)

/-- Of the lines that are added to some bytes, only the first can be less than a line of its own. -/
theorem tail_suffix_completeLines {lines : List (List UInt8)} (plain : ∀ l ∈ lines, lineEnd ∉ l) (old : List UInt8) :
    lines.tail <:+ completeLines (old ++ joinLines lines) := by
  cases lines with
  | nil => exact List.nil_suffix
  | cons line lines =>
    obtain ⟨rest, split, -⟩ := exists_completeLines_append plain old
    rw [split]
    exact (List.suffix_cons (rest ++ line) lines).trans (List.suffix_append _ _)

end StreamPolicy.Text
