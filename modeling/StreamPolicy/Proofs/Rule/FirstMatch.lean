import StreamPolicy.Proofs.Rule.Grouping
import StreamPolicy.Rule.Evaluation

/-!
# Which entry of a rule list matches first

The search of a rule list as conditions on the list itself: what the first flat entry, and the first
entry of the first group, have to satisfy, and when there is neither. Every entry that a match
stands for matches.
-/

namespace StreamPolicy

namespace Entry

/-- An entry that carries the name of a group and no route. -/
inductive BelongsTo : Entry → String → Prop
  | grouped (n : String) (r : Rule) : BelongsTo (.grouped n r) n

/-- An entry that has neither a group nor a route. -/
inductive IsFlat : Entry → Prop
  | bare (r : Rule) : IsFlat (.bare r)
  | single (r : Rule) : IsFlat (.single r)

/-- What an entry looks at in a list about a source: a bare rule looks at that source. -/
def sourceAbout (about : Source) : Entry → Source
  | .bare _ => about
  | e => e.rule.source

/-- The rule of an entry matches in a list about a source. -/
def MatchesAbout (ctx : Context) (candidate : String) (about : Source) (e : Entry) : Prop :=
  e.rule.holdsFor ctx (e.sourceAbout about) candidate = true

/-- All entries of a group match. -/
def Together (ctx : Context) (candidate : String) (entries : List Entry) (n : String) : Prop :=
  ∀ e ∈ entries, e.BelongsTo n → e.rule.holds ctx candidate = true

/-- The entries that a match in a list stands for: itself, or all of its group. -/
inductive StandsFor (entries : List Entry) : Entry → Entry → Prop
  | flat {e : Entry} (flat : e.IsFlat) : StandsFor entries e e
  | together {hit e : Entry} {n : String} (belongs : hit.BelongsTo n) (member : e ∈ entries)
      (joins : e.BelongsTo n) : StandsFor entries hit e

theorem IsFlat.not_belongsTo {e : Entry} (flat : e.IsFlat) {n : String} : ¬ e.BelongsTo n := by
  rintro ⟨n, r⟩
  cases flat

theorem BelongsTo.unique {e : Entry} {n m : String} (belongs : e.BelongsTo n) (belongs' : e.BelongsTo m) : n = m := by
  cases belongs
  cases belongs'
  rfl

theorem BelongsTo.matchesAbout_iff {e : Entry} {n : String} (belongs : e.BelongsTo n) {ctx : Context}
    {candidate : String} {about : Source} : e.MatchesAbout ctx candidate about ↔ e.rule.holds ctx candidate = true := by
  cases belongs
  rfl

theorem flatHolds_iff {ctx : Context} {candidate : String} {about : Source} (e : Entry) :
    e.flatHolds ctx candidate about = true ↔ e.IsFlat ∧ e.MatchesAbout ctx candidate about := by
  constructor
  · intro holds
    cases e with
    | bare r => exact ⟨.bare r, holds⟩
    | single r => exact ⟨.single r, holds⟩
    | grouped n r => cases holds
    | tagged d n r => cases holds
  · rintro ⟨_ | _, holds⟩
    · exact holds
    · exact holds

theorem isOfGroup_iff {n : String} (e : Entry) : e.isOfGroup n = true ↔ e.BelongsTo n := by
  constructor
  · intro belongs
    cases e with
    | grouped m r => cases of_decide_eq_true belongs; exact .grouped _ r
    | _ => cases belongs
  · rintro ⟨n, r⟩
    exact decide_eq_true rfl

theorem grouped_and_group?_iff {n : String} (e : Entry) :
    e.isGrouped = true ∧ e.group? = some n ↔ e.BelongsTo n := by
  constructor
  · rintro ⟨grouped, named⟩
    cases e with
    | grouped m r => cases named; exact .grouped _ r
    | _ => cases grouped
  · rintro ⟨n, r⟩
    exact ⟨rfl, rfl⟩

end Entry

/-! ## Groups -/

/-- The rules of a group in the order of the list. -/
def groupRules (entries : List Entry) (n : String) : List Rule :=
  (entries.filter (Entry.isOfGroup n)).map Entry.rule

theorem membersOf_grouped (entries : List Entry) (n : String) :
    membersOf Entry.group? (entries.filter Entry.isGrouped) n = entries.filter (Entry.isOfGroup n) := by
  rw [membersOf, List.filter_filter]
  congr 1
  funext e
  rw [Bool.eq_iff_iff, Bool.and_eq_true, decide_eq_true_iff, and_comm, Entry.grouped_and_group?_iff,
    Entry.isOfGroup_iff]

/-- The groups of a list are the names of its grouped entries in the order of first appearance, each
with its rules. -/
theorem groupsByName_eq (entries : List Entry) :
    groupsByName (entries.filter Entry.isGrouped) =
      (keysOf Entry.group? (entries.filter Entry.isGrouped)).map fun n => (n, groupRules entries n) := by
  rw [groupsByName, groupBy_eq, List.map_map]
  apply List.map_congr_left
  intro n _
  simp only [Function.comp_apply, membersOf_grouped, groupRules]

theorem mem_keysOf_grouped {entries : List Entry} {n : String} :
    n ∈ keysOf Entry.group? (entries.filter Entry.isGrouped) ↔ ∃ e ∈ entries, e.BelongsTo n := by
  rw [mem_keysOf]
  simp only [List.mem_filter, and_assoc, Entry.grouped_and_group?_iff]

theorem groupRules_ne_nil {entries : List Entry} {n : String} (named : ∃ e ∈ entries, e.BelongsTo n) :
    groupRules entries n ≠ [] := by
  obtain ⟨e, member, belongs⟩ := named
  have inside : e.rule ∈ groupRules entries n :=
    List.mem_map_of_mem (List.mem_filter.mpr ⟨member, (Entry.isOfGroup_iff e).mpr belongs⟩)
  exact List.ne_nil_of_mem inside

theorem together_iff {ctx : Context} {candidate : String} {entries : List Entry} {n : String} :
    Entry.Together ctx candidate entries n ↔ ∀ r ∈ groupRules entries n, r.holds ctx candidate = true := by
  rw [groupRules, List.forall_mem_map]
  simp [Entry.Together, Entry.isOfGroup_iff]

theorem groupHolds_groupRules_iff {ctx : Context} {candidate : String} {entries : List Entry} {n : String}
    (named : ∃ e ∈ entries, e.BelongsTo n) :
    groupHolds ctx (groupRules entries n) candidate = true ↔ Entry.Together ctx candidate entries n := by
  rw [groupHolds_iff, together_iff]
  exact and_iff_right (groupRules_ne_nil named)

/-! ## The search -/

section
variable {ctx : Context} {entries : List Entry} {candidate : String} {about : Source}

theorem firstFlat?_eq_some_iff {e : Entry} :
    firstFlat? ctx entries candidate about = some e ↔
      First (fun e => e.IsFlat ∧ e.MatchesAbout ctx candidate about) entries e :=
  find?_eq_some_iff_first Entry.flatHolds_iff

theorem firstFlat?_eq_none_iff :
    firstFlat? ctx entries candidate about = none ↔
      ∀ e ∈ entries, ¬ (e.IsFlat ∧ e.MatchesAbout ctx candidate about) :=
  find?_eq_none_iff_forall Entry.flatHolds_iff

theorem find?_groupRules_eq_some_iff {n : String} :
    ((keysOf Entry.group? (entries.filter Entry.isGrouped)).find? fun n =>
      groupHolds ctx (groupRules entries n) candidate) = some n ↔
      FirstName Entry.BelongsTo (Entry.Together ctx candidate entries) entries n := by
  rw [keysOf_filter, find?_keysOf_eq_some_iff]
  simp only [Option.ite_none_right_eq_some, Entry.grouped_and_group?_iff]
  apply firstName_congr
  intro e member m belongs
  exact groupHolds_groupRules_iff ⟨e, member, belongs⟩

theorem firstGroup?_eq_bind : firstGroup? ctx entries candidate =
    ((keysOf Entry.group? (entries.filter Entry.isGrouped)).find? fun n =>
      groupHolds ctx (groupRules entries n) candidate).bind fun n => entries.find? (Entry.isOfGroup n) := by
  rw [firstGroup?, groupsByName_eq, List.find?_map, Option.bind_map]
  rfl

theorem firstGroup?_eq_some_iff {e : Entry} :
    firstGroup? ctx entries candidate = some e ↔
      ∃ n, FirstName Entry.BelongsTo (Entry.Together ctx candidate entries) entries n ∧
        First (·.BelongsTo n) entries e := by
  rw [firstGroup?_eq_bind, Option.bind_eq_some_iff]
  simp only [find?_groupRules_eq_some_iff, find?_eq_some_iff_first Entry.isOfGroup_iff]

theorem firstGroup?_eq_none_iff :
    firstGroup? ctx entries candidate = none ↔
      ∀ e ∈ entries, ∀ n, e.BelongsTo n → ¬ Entry.Together ctx candidate entries n := by
  rw [firstGroup?_eq_bind, Option.bind_eq_none_iff]
  constructor
  · intro missing e member n belongs together
    cases found : (keysOf Entry.group? (entries.filter Entry.isGrouped)).find? fun n =>
        groupHolds ctx (groupRules entries n) candidate with
    | none =>
      have named : ∃ e ∈ entries, e.BelongsTo n := ⟨e, member, belongs⟩
      have apart := List.find?_eq_none.mp found n (mem_keysOf_grouped.mpr named)
      exact apart ((groupHolds_groupRules_iff named).mpr together)
    | some m =>
      -- The group that is found has a first entry, so the second search cannot fail.
      obtain ⟨before, a, after, split, joins, _⟩ := find?_groupRules_eq_some_iff.mp found
      have listed : a ∈ entries := by simp [split]
      exact (find?_eq_none_iff_forall Entry.isOfGroup_iff).mp (missing m found) a listed joins
  · intro apart n found
    obtain ⟨before, a, after, split, joins, together, _⟩ := find?_groupRules_eq_some_iff.mp found
    exact absurd together (apart a (by simp [split]) n joins)

theorem firstMatch?_eq_none_iff :
    firstMatch? ctx entries candidate about = none ↔
      (∀ e ∈ entries, ¬ (e.IsFlat ∧ e.MatchesAbout ctx candidate about)) ∧
        ∀ e ∈ entries, ∀ n, e.BelongsTo n → ¬ Entry.Together ctx candidate entries n := by
  rw [← firstFlat?_eq_none_iff, ← firstGroup?_eq_none_iff, firstMatch?]
  split
  · rw [Option.or_eq_none_iff]
  · rw [Option.or_eq_none_iff, and_comm]

/-- Whatever a match stands for matches. -/
theorem matchesAbout_of_firstMatch? {hit e : Entry} (found : firstMatch? ctx entries candidate about = some hit)
    (stands : hit.StandsFor entries e) : e.MatchesAbout ctx candidate about := by
  have searched : firstFlat? ctx entries candidate about = some hit ∨ firstGroup? ctx entries candidate = some hit := by
    rw [firstMatch?] at found
    split at found
    · exact (Option.or_eq_some_iff.mp found).imp_right And.right
    · exact (Option.or_eq_some_iff.mp found).symm.imp_left And.right
  rcases searched with flat | group
  · obtain ⟨_, _, _, ⟨isFlat, matched⟩, _⟩ := firstFlat?_eq_some_iff.mp flat
    cases stands with
    | flat => exact matched
    | together belongs => exact absurd belongs isFlat.not_belongsTo
  · obtain ⟨n, ⟨_, _, _, _, _, together, _⟩, _, _, _, belongs, _⟩ := firstGroup?_eq_some_iff.mp group
    cases stands with
    | flat isFlat => exact absurd belongs isFlat.not_belongsTo
    | together belongs' member joins =>
      rw [belongs'.unique belongs] at joins
      exact joins.matchesAbout_iff.mpr (together e member joins)

end

end StreamPolicy
