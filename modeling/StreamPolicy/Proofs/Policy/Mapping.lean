import StreamPolicy.Policy.Mapping
import StreamPolicy.Proofs.Text.Search

/-!
# What mappings do to a path

A mapping that replaces looks for its text from left to right and never in what it has written. So it is told
by the first place of the text alone, and a mapping of what a path begins with can be taken back.
-/

namespace StreamPolicy.Mapping

open StreamPolicy.Text

/-- The mapping that replaces the first occurrence of a text. -/
def replacing (search replacement : String) : Mapping :=
  ⟨.replace, search, replacement⟩

/-- The mapping that replaces every occurrence of a text. -/
def replacingAll (search replacement : String) : Mapping :=
  ⟨.replaceAll, search, replacement⟩

/-- The mapping that replaces the first occurrence of a text, as a policy writes it. -/
def replacingField (search replacement : String) : Field :=
  .list [.int 0, .str search, .str replacement]

theorem ofField?_replacingField (search replacement : String) :
    ofField? (replacingField search replacement) = some (replacing search replacement) :=
  rfl

variable {search replacement path : String}

theorem toList_apply_replacing (search replacement path : String) :
    ((replacing search replacement).apply path).toList =
      replaceFirst search.toList replacement.toList path.toList :=
  String.toList_ofList

theorem toList_apply_replacingAll (search replacement path : String) :
    ((replacingAll search replacement).apply path).toList =
      replaceAll search.toList replacement.toList path.toList :=
  String.toList_ofList

section Absent

variable (absent : ¬ search.toList <:+: path.toList)

include absent in
theorem apply_replacing_of_absent : (replacing search replacement).apply path = path := by
  rw [← String.toList_inj, toList_apply_replacing, replaceFirst, cut?_eq_none_iff.mpr absent]

include absent in
theorem apply_replacingAll_of_absent (inhabited : search ≠ "") :
    (replacingAll search replacement).apply path = path := by
  have some : search.toList ≠ [] := mt String.toList_eq_nil_iff.mp inhabited
  rw [← String.toList_inj, toList_apply_replacingAll, replaceAll_of_not_infix some absent]

end Absent

section Divided

variable {before rest : String} (divided : DividedAt search.toList path.toList before.toList rest.toList)

include divided in
theorem apply_replacing_of_dividedAt : (replacing search replacement).apply path = before ++ replacement ++ rest := by
  rw [← String.toList_inj, toList_apply_replacing, replaceFirst, cut?_eq_some_iff.mpr divided]
  simp

include divided in
theorem apply_replacingAll_of_dividedAt (inhabited : search ≠ "") :
    (replacingAll search replacement).apply path =
      before ++ replacement ++ (replacingAll search replacement).apply rest := by
  have some : search.toList ≠ [] := mt String.toList_eq_nil_iff.mp inhabited
  rw [← String.toList_inj, toList_apply_replacingAll, replaceAll_eq some, cut?_eq_some_iff.mpr divided]
  simp [toList_apply_replacingAll]

end Divided

/-! ## Mapping what a path begins with -/

theorem dividedAt_front (search rest : String) :
    DividedAt search.toList (search ++ rest).toList "".toList rest.toList :=
  ⟨by simp, fun _ _ _ => Nat.zero_le _⟩

theorem apply_replacing_front (search replacement rest : String) :
    (replacing search replacement).apply (search ++ rest) = replacement ++ rest := by
  rw [apply_replacing_of_dividedAt (dividedAt_front search rest), String.empty_append]

theorem applyAll_undo (x y rest : String) :
    applyAll (readAll [replacingField x y, replacingField y x]) (x ++ rest) = x ++ rest := by
  have read : readAll [replacingField x y, replacingField y x] = [replacing x y, replacing y x] := by
    simp only [readAll, List.filterMap_cons, ofField?_replacingField, List.filterMap_nil]
  rw [read, applyAll, List.foldl_cons, List.foldl_cons, List.foldl_nil, apply_replacing_front, apply_replacing_front]

/-- Where a text does not occur a path stays as it is. Otherwise its first occurrence is replaced, and what
follows is left alone by the one mapping and mapped again by the other, so that both agree when the text
does not occur there. Mapping what a path begins with, and back, gives the path. -/
theorem apply_replaces (search replacement path : String) (inhabited : search ≠ "") :
    (¬ search.toList <:+: path.toList →
        (replacing search replacement).apply path = path ∧ (replacingAll search replacement).apply path = path) ∧
      (∀ before rest : String, DividedAt search.toList path.toList before.toList rest.toList →
        (replacing search replacement).apply path = before ++ replacement ++ rest ∧
          (replacingAll search replacement).apply path =
            before ++ replacement ++ (replacingAll search replacement).apply rest ∧
          (¬ search.toList <:+: rest.toList →
            (replacingAll search replacement).apply path = (replacing search replacement).apply path)) ∧
      ∀ x y rest : String, applyAll (readAll [replacingField x y, replacingField y x]) (x ++ rest) = x ++ rest := by
  refine ⟨fun absent => ?_, fun before rest divided => ⟨?_, ?_, fun absent => ?_⟩, applyAll_undo⟩
  · exact ⟨apply_replacing_of_absent absent, apply_replacingAll_of_absent absent inhabited⟩
  · exact apply_replacing_of_dividedAt divided
  · exact apply_replacingAll_of_dividedAt divided inhabited
  · rw [apply_replacingAll_of_dividedAt divided inhabited, apply_replacingAll_of_absent absent inhabited,
      apply_replacing_of_dividedAt divided]

/-- Of a text that overlaps itself the first place counts, and what the replacement makes of it is not searched. -/
theorem apply_replaces_overlapping :
    "aa" ≠ "" ∧ DividedAt "aa".toList "aaa".toList "".toList "a".toList ∧ ¬ "aa".toList <:+: "a".toList ∧
      (replacing "aa" "a").apply "aaa" = "" ++ "a" ++ "a" ∧
      (replacingAll "aa" "a").apply "aaa" = (replacing "aa" "a").apply "aaa" := by
  have inhabited : "aa" ≠ "" := by decide
  have divided : DividedAt "aa".toList "aaa".toList "".toList "a".toList := cut?_eq_some_iff.mp (by decide)
  have absent : ¬ "aa".toList <:+: "a".toList := by decide
  obtain ⟨first, -, every⟩ := (apply_replaces "aa" "a" "aaa" inhabited).2.1 "" "a" divided
  exact ⟨inhabited, divided, absent, first, every absent⟩

end StreamPolicy.Mapping
