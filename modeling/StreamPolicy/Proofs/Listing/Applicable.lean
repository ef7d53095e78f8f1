import StreamPolicy.Proofs.Listing.Hiding

/-!
# Hide rules apply by units

The entries that apply to a listing are whole units of the hide list: all entries of a group apply or
none does, since they share the one level and the one main item that exempt them. So what applies has
the units of the list that are not exempt, and no others; applying it once more changes nothing.
-/

namespace StreamPolicy

/-- `applied` holds the entries of the units of a hide list that are not exempt. -/
structure AppliesByUnits (ctx : Context) (view : Option View) (mainItem : Option String)
    (entries applied : List Entry) : Prop where
  /-- Entries stay in order, and none with a route is among them. -/
  order : applied.Sublist (entries.filter fun e => !e.isTagged)
  /-- A group applies whole or not at all. -/
  whole (n : String) : applied.filter (Entry.isOfGroup n) = entries.filter (Entry.isOfGroup n) ∨
    applied.filter (Entry.isOfGroup n) = []
  units (u : HideUnit) : HideUnit.In applied u ↔ HideUnit.In entries u ∧ ¬ u.Exempt ctx view mainItem
  /-- What applies without a level or at level 0 or 2 does not hide the main item. -/
  spares (u : HideUnit) (path : String) : HideUnit.In applied u →
    (∀ n, ¬ u.HasLevel n) ∨ u.HasLevel 0 ∨ u.HasLevel 2 → mainItem = some path → path ≠ "" → ¬ u.Matches ctx path

variable {ctx : Context} {entries : List Entry} {view : Option View} {mainItem : Option String} {e : Entry}
  {u : HideUnit} {n : String}

theorem applicableEntries_sublist :
    (applicableEntries ctx entries view mainItem).Sublist (entries.filter fun e => !e.isTagged) := by
  apply List.monotone_filter_right
  intro e applies
  rw [Entry.appliesTo, Bool.and_eq_true, Bool.and_eq_true] at applies
  exact applies.1.1

/-! ## Groups -/

/-- The entries of a group have one unit. -/
theorem appliesTo_iff_of_isOfGroup (member : e ∈ entries) (belongs : e.isOfGroup n = true) :
    e.appliesTo ctx (groupsByName (entries.filter Entry.isGrouped)) view (mainItem.filter (· ≠ "")) = true ↔
      ¬ (HideUnit.group (groupRules entries n)).Exempt ctx view mainItem := by
  cases (Entry.isOfGroup_iff e).mp belongs with
  | grouped n r => exact (HideUnit.Of.group n r).appliesTo_iff member

theorem filter_isOfGroup_of_active (active : ¬ (HideUnit.group (groupRules entries n)).Exempt ctx view mainItem) :
    (applicableEntries ctx entries view mainItem).filter (Entry.isOfGroup n) = entries.filter (Entry.isOfGroup n) := by
  rw [applicableEntries, List.filter_filter]
  apply List.filter_congr
  intro e member
  cases belongs : e.isOfGroup n with
  | false => rfl
  | true => simpa using (appliesTo_iff_of_isOfGroup member belongs).mpr active

theorem filter_isOfGroup_of_exempt (exempt : (HideUnit.group (groupRules entries n)).Exempt ctx view mainItem) :
    (applicableEntries ctx entries view mainItem).filter (Entry.isOfGroup n) = [] := by
  rw [List.filter_eq_nil_iff]
  intro e applies belongs
  obtain ⟨member, applies⟩ := List.mem_filter.mp applies
  exact (appliesTo_iff_of_isOfGroup member belongs).mp applies exempt

/-! ## Units -/

/-- An entry that applies has the same unit among those that apply. -/
theorem of_applicableEntries (applies : e ∈ applicableEntries ctx entries view mainItem)
    (unit : HideUnit.Of entries e u) : HideUnit.Of (applicableEntries ctx entries view mainItem) e u := by
  obtain ⟨-, v, unit', active⟩ := mem_applicableEntries.mp applies
  obtain rfl := unit'.unique unit
  cases unit with
  | bare r => exact .bare r
  | single r => exact .single r
  | group n r =>
    have same : groupRules (applicableEntries ctx entries view mainItem) n = groupRules entries n := by
      rw [groupRules, filter_isOfGroup_of_active active, groupRules]
    rw [← same]
    exact .group n r

theorem in_applicableEntries_iff :
    HideUnit.In (applicableEntries ctx entries view mainItem) u ↔
      HideUnit.In entries u ∧ ¬ u.Exempt ctx view mainItem := by
  constructor
  · rintro ⟨e, applies, unit⟩
    obtain ⟨member, v, unit', active⟩ := mem_applicableEntries.mp applies
    obtain rfl := (of_applicableEntries applies unit').unique unit
    exact ⟨⟨e, member, unit'⟩, active⟩
  · rintro ⟨⟨e, member, unit⟩, active⟩
    have applies := mem_applicableEntries.mpr ⟨member, u, unit, active⟩
    exact ⟨e, applies, of_applicableEntries applies unit⟩

theorem applicableEntries_again :
    applicableEntries ctx (applicableEntries ctx entries view mainItem) view mainItem =
      applicableEntries ctx entries view mainItem := by
  apply List.filter_eq_self.mpr
  intro e applies
  obtain ⟨-, u, unit, active⟩ := mem_applicableEntries.mp applies
  exact ((of_applicableEntries applies unit).appliesTo_iff applies).mpr active

/-- The entries that apply to a listing are those of the units that are not exempt, and all of them
apply again. -/
theorem applicableEntries_byUnits (ctx : Context) (entries : List Entry) (view : Option View)
    (mainItem : Option String) :
    AppliesByUnits ctx view mainItem entries (applicableEntries ctx entries view mainItem) ∧
      applicableEntries ctx (applicableEntries ctx entries view mainItem) view mainItem =
        applicableEntries ctx entries view mainItem := by
  refine ⟨⟨applicableEntries_sublist, ?_, fun u => in_applicableEntries_iff, ?_⟩, applicableEntries_again⟩
  · intro n
    by_cases exempt : (HideUnit.group (groupRules entries n)).Exempt ctx view mainItem
    · exact .inr (filter_isOfGroup_of_exempt exempt)
    · exact .inl (filter_isOfGroup_of_active exempt)
  · intro u path applies level given nonempty matched
    exact (in_applicableEntries_iff.mp applies).2 (.mainItem level given nonempty matched)

/-- A group of level 0 that hides the main item goes as a whole, whatever stands between its entries. -/
theorem applicableEntries_byUnits_interleaved :
    let rule (text : String) (extra : List Field) : Rule :=
      ⟨.filePath, .known (.plain .includes), .one (.literal text), extra⟩
    let entries : List Entry := [.grouped "g" (rule "/media/" [.int 0]), .bare (rule "/tv/" [.int 1]),
      .tagged .block (some "g") (rule "/kids/" []), .grouped "g" (rule ".mkv" []), .grouped "h" (rule "/kids/" [])]
    let applied : List Entry := [.bare (rule "/tv/" [.int 1]), .grouped "h" (rule "/kids/" [])]
    applicableEntries Context.empty entries none (some "/media/tv/a.mkv") = applied ∧
      AppliesByUnits Context.empty none (some "/media/tv/a.mkv") entries applied ∧
      ¬ (HideUnit.group (groupRules applied "h")).Matches Context.empty "/media/tv/a.mkv" := by
  intro rule entries applied
  have applies : applicableEntries Context.empty entries none (some "/media/tv/a.mkv") = applied := rfl
  obtain ⟨byUnits, -⟩ := applicableEntries_byUnits Context.empty entries none (some "/media/tv/a.mkv")
  rw [applies] at byUnits
  have unit : HideUnit.In applied (.group (groupRules applied "h")) :=
    ⟨_, List.mem_cons_of_mem _ List.mem_cons_self, .group "h" _⟩
  have unlevelled (n : Int) : ¬ (HideUnit.group (groupRules applied "h")).HasLevel n := by
    rintro ⟨r, f, rest, first, behind, -⟩
    cases first
    cases behind
  exact ⟨applies, byUnits, byUnits.spares _ _ unit (.inl unlevelled) rfl (by decide)⟩

end StreamPolicy
