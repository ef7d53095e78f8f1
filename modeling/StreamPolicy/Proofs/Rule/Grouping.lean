import Mathlib.Data.List.Induction
import StreamPolicy.Rule.Evaluation

/-!
# Items put together by key

What `groupBy` returns: one group for each key that occurs, in the order in which the keys first
appear, and in each group all items of that key in the order of the list. A search among the groups
is then a search for the first item whose key is the wanted one.
-/

namespace StreamPolicy

variable {α κ β : Type}

/-- `a` is the first item of a list with a property. -/
def First (P : α → Prop) (items : List α) (a : α) : Prop :=
  ∃ before after, items = before ++ a :: after ∧ P a ∧ ∀ b ∈ before, ¬ P b

/-- Of the names that the items of a list carry, in the order in which the names first appear, `n`
is the first with a property. -/
def FirstName (Carries : α → κ → Prop) (P : κ → Prop) (items : List α) (n : κ) : Prop :=
  ∃ before a after, items = before ++ a :: after ∧ Carries a n ∧ P n ∧
    ∀ b ∈ before, ∀ m, Carries b m → ¬ P m

theorem find?_eq_some_iff_first {p : α → Bool} {P : α → Prop} (reads : ∀ b, p b = true ↔ P b)
    {items : List α} {a : α} : items.find? p = some a ↔ First P items a := by
  rw [List.find?_eq_some_iff_append]
  constructor
  · rintro ⟨hit, before, after, split, earlier⟩
    refine ⟨before, after, split, (reads a).mp hit, ?_⟩
    intro b member holds
    simpa [(reads b).mpr holds] using earlier b member
  · rintro ⟨before, after, split, holds, earlier⟩
    refine ⟨(reads a).mpr holds, before, after, split, ?_⟩
    intro b member
    simpa [← reads b] using earlier b member

theorem First.unique {P : α → Prop} {items : List α} {a b : α} (first : First P items a)
    (first' : First P items b) : a = b := by
  classical
  have reads (c : α) : decide (P c) = true ↔ P c := decide_eq_true_iff
  exact Option.some.inj (((find?_eq_some_iff_first reads).mpr first).symm.trans
    ((find?_eq_some_iff_first reads).mpr first'))

theorem firstName_congr {Carries : α → κ → Prop} {P Q : κ → Prop} {items : List α} {n : κ}
    (same : ∀ a ∈ items, ∀ m, Carries a m → (P m ↔ Q m)) :
    FirstName Carries P items n ↔ FirstName Carries Q items n := by
  have oneWay {P Q : κ → Prop} (same : ∀ a ∈ items, ∀ m, Carries a m → (P m ↔ Q m))
      (first : FirstName Carries P items n) : FirstName Carries Q items n := by
    obtain ⟨before, a, after, rfl, carries, holds, earlier⟩ := first
    refine ⟨before, a, after, rfl, carries, (same a (by simp) n carries).mp holds, ?_⟩
    intro b member m carries' holds'
    exact earlier b member m carries' ((same b (by simp [member]) m carries').mpr holds')
  exact ⟨oneWay same, oneWay fun a member m carries => (same a member m carries).symm⟩

theorem find?_eq_none_iff_forall {p : α → Bool} {P : α → Prop} (reads : ∀ b, p b = true ↔ P b)
    {items : List α} : items.find? p = none ↔ ∀ b ∈ items, ¬ P b := by
  simp [List.find?_eq_none, ← reads]

theorem findSome?_congr {f g : α → Option β} {items : List α} (same : ∀ a ∈ items, f a = g a) :
    items.findSome? f = items.findSome? g := by
  induction items with
  | nil => rfl
  | cons a items ih =>
    rw [List.findSome?_cons, List.findSome?_cons, same a List.mem_cons_self,
      ih fun b later => same b (List.mem_cons_of_mem a later)]

/-! ## Groups -/

theorem groupHolds_iff {ctx : Context} {candidate : String} {rules : List Rule} :
    groupHolds ctx rules candidate = true ↔ rules ≠ [] ∧ ∀ r ∈ rules, r.holds ctx candidate = true := by
  simp [groupHolds]

variable [DecidableEq κ]

/-- The items of a list that have a key. -/
def membersOf (key : α → Option κ) (items : List α) (k : κ) : List α :=
  items.filter fun item => key item = some k

/-- The keys that occur in a list, each once, in the order of first appearance. -/
def keysOf (key : α → Option κ) (items : List α) : List κ :=
  (items.filterMap key).eraseDups

theorem mem_keysOf {key : α → Option κ} {items : List α} {k : κ} :
    k ∈ keysOf key items ↔ ∃ item ∈ items, key item = some k := by
  simp [keysOf]

theorem keysOf_filter (key : α → Option κ) (p : α → Bool) (items : List α) :
    keysOf key (items.filter p) = keysOf (fun item => if p item then key item else none) items := by
  simp [keysOf, List.filterMap_filter]

theorem keysOf_append_none {key : α → Option κ} {items : List α} {item : α} (keyless : key item = none) :
    keysOf key (items ++ [item]) = keysOf key items := by
  simp [keysOf, keyless]

theorem keysOf_append_old {key : α → Option κ} {items : List α} {item : α} {k : κ}
    (keyed : key item = some k) (old : k ∈ keysOf key items) :
    keysOf key (items ++ [item]) = keysOf key items := by
  have listed : (items.filterMap key).elem k = true := List.elem_eq_true_of_mem (List.mem_eraseDups.mp old)
  simp only [keysOf, List.filterMap_append, List.filterMap_cons, keyed, List.filterMap_nil,
    List.eraseDups_append, List.removeAll, List.filter_cons, listed]
  simp

theorem keysOf_append_new {key : α → Option κ} {items : List α} {item : α} {k : κ}
    (keyed : key item = some k) (new : k ∉ keysOf key items) :
    keysOf key (items ++ [item]) = keysOf key items ++ [k] := by
  have unlisted : (items.filterMap key).elem k = false := by
    simpa [mem_keysOf] using new
  simp only [keysOf, List.filterMap_append, List.filterMap_cons, keyed, List.filterMap_nil,
    List.eraseDups_append, List.removeAll, List.filter_cons, unlisted]
  rfl

theorem membersOf_append (key : α → Option κ) (items : List α) (item : α) (k : κ) :
    membersOf key (items ++ [item]) k =
      if key item = some k then membersOf key items k ++ [item] else membersOf key items k := by
  by_cases keyed : key item = some k
  · simp [membersOf, keyed]
  · simp [membersOf, keyed]

/-- One more item joins the group of its key, opens a group behind the others, or is left out. -/
theorem groupBy_append (key : α → Option κ) (items : List α) (item : α) :
    groupBy key (items ++ [item]) =
      match key item with
      | none => groupBy key items
      | some k =>
        if (groupBy key items).any (fun g => g.1 = k) then
          (groupBy key items).map fun g => if g.1 = k then (g.1, g.2 ++ [item]) else g
        else groupBy key items ++ [(k, [item])] := by
  simp only [groupBy, List.foldl_append, List.foldl_cons, List.foldl_nil]
  rfl

/-- The groups of a list are its keys in the order of first appearance, each with its items. -/
theorem groupBy_eq (key : α → Option κ) (items : List α) :
    groupBy key items = (keysOf key items).map fun k => (k, membersOf key items k) := by
  -- Items are added at the end of the list, as the fold takes them.
  induction items using List.reverseRecOn with
  | nil => rfl
  | append_singleton items item ih =>
    rw [groupBy_append, ih]
    cases keyed : key item with
    | none => simp [keysOf_append_none keyed, membersOf_append, keyed]
    | some k =>
      by_cases old : k ∈ keysOf key items
      · have present : ((keysOf key items).map fun k => (k, membersOf key items k)).any (fun g => g.1 = k) := by
          simpa using old
        simp only [present, if_true, keysOf_append_old keyed old, List.map_map]
        apply List.map_congr_left
        intro k' _
        by_cases same : k' = k
        · simp [membersOf_append, keyed, same]
        · simp [membersOf_append, keyed, same, Ne.symm same]
      · have absent : ¬ ((keysOf key items).map fun k => (k, membersOf key items k)).any (fun g => g.1 = k) := by
          simpa using old
        have empty : membersOf key items k = [] := by
          rw [membersOf, List.filter_eq_nil_iff]
          intro a member carries
          exact old (mem_keysOf.mpr ⟨a, member, by simpa using carries⟩)
        dsimp only
        rw [if_neg absent, keysOf_append_new keyed old, List.map_append, List.map_singleton,
          membersOf_append, if_pos keyed, empty, List.nil_append]
        congr 1
        apply List.map_congr_left
        intro k' listed
        have other : k ≠ k' := fun same => old (same ▸ listed)
        simp [membersOf_append, keyed, other]

/-- Changing the items without their keys changes the groups item by item. -/
theorem groupBy_map {γ : Type} {key : α → Option κ} {key' : γ → Option κ} {f : γ → α} (same : ∀ c, key (f c) = key' c)
    (items : List γ) : groupBy key (items.map f) = (groupBy key' items).map fun g => (g.1, g.2.map f) := by
  have keys : keysOf key (items.map f) = keysOf key' items := by
    rw [keysOf, List.filterMap_map, show key ∘ f = key' from funext same, keysOf]
  have members (k : κ) : membersOf key (items.map f) k = (membersOf key' items k).map f := by
    rw [membersOf, List.filter_map, membersOf]
    simp [Function.comp_def, same]
  simp [groupBy_eq, keys, members]

theorem mem_groupBy {key : α → Option κ} {items : List α} {g : κ × List α} :
    g ∈ groupBy key items ↔ g.1 ∈ keysOf key items ∧ g.2 = membersOf key items g.1 := by
  rw [groupBy_eq, List.mem_map]
  constructor
  · rintro ⟨k, listed, rfl⟩
    exact ⟨listed, rfl⟩
  · rintro ⟨listed, members⟩
    exact ⟨g.1, listed, Prod.ext rfl members.symm⟩

theorem mem_membersOf {key : α → Option κ} {items : List α} {k : κ} {a : α} :
    a ∈ membersOf key items k ↔ a ∈ items ∧ key a = some k := by
  simp [membersOf]

theorem key_of_mem_groupBy {key : α → Option κ} {items : List α} {g : κ × List α} (listed : g ∈ groupBy key items)
    {a : α} (member : a ∈ g.2) : a ∈ items ∧ key a = some g.1 := by
  rw [(mem_groupBy.mp listed).2] at member
  exact mem_membersOf.mp member

/-- A search among the keys of a list is a search among the items for the key of the first hit. -/
theorem findSome?_keysOf (key : α → Option κ) (items : List α) (f : κ → Option β) :
    (keysOf key items).findSome? f = items.findSome? fun item => (key item).bind f := by
  induction items using List.reverseRecOn with
  | nil => rfl
  | append_singleton items item ih =>
    rw [List.findSome?_append, ← ih]
    cases keyed : key item with
    | none => simp [keysOf_append_none keyed, keyed]
    | some k =>
      by_cases old : k ∈ keysOf key items
      · rw [keysOf_append_old keyed old]
        cases found : (keysOf key items).findSome? f with
        | some b => rfl
        | none =>
          -- A key that was there before has been tried already.
          have tried : f k = none := List.findSome?_eq_none_iff.mp found k old
          simp [keyed, tried]
      · simp [keysOf_append_new keyed old, List.findSome?_append, keyed]

/-- The first key with a property is the first name that the items carry and that has it. -/
theorem find?_keysOf_eq_some_iff {key : α → Option κ} {items : List α} {p : κ → Bool} {k : κ} :
    (keysOf key items).find? p = some k ↔
      FirstName (fun item k => key item = some k) (fun k => p k = true) items k := by
  rw [List.find?_eq_findSome?_guard, findSome?_keysOf, List.findSome?_eq_some_iff]
  constructor
  · rintro ⟨before, item, after, split, hit, earlier⟩
    obtain ⟨k', keyed, guarded⟩ := Option.bind_eq_some_iff.mp hit
    obtain ⟨rfl, holds⟩ := Option.guard_eq_some_iff.mp guarded
    refine ⟨before, item, after, split, keyed, holds, ?_⟩
    intro other member m keyed'
    simpa [keyed', Option.guard_eq_none_iff] using earlier other member
  · rintro ⟨before, item, after, split, keyed, holds, earlier⟩
    refine ⟨before, item, after, split, by simp [keyed, Option.guard, holds], ?_⟩
    intro other member
    cases keyed' : key other with
    | none => rfl
    | some m => simpa [Option.guard_eq_none_iff] using earlier other member m keyed'

/-- The first group that yields a result is that of the first item whose group yields one. -/
theorem findSome?_groupBy_eq_some_iff {key : α → Option κ} {items : List α} {f : κ × List α → Option β} {b : β} :
    (groupBy key items).findSome? f = some b ↔
      ∃ before item after k, items = before ++ item :: after ∧ key item = some k ∧
        f (k, membersOf key items k) = some b ∧
        ∀ other ∈ before, ∀ k', key other = some k' → f (k', membersOf key items k') = none := by
  rw [groupBy_eq, List.findSome?_map, findSome?_keysOf, List.findSome?_eq_some_iff]
  constructor
  · rintro ⟨before, item, after, split, hit, earlier⟩
    obtain ⟨k, keyed, result⟩ := Option.bind_eq_some_iff.mp hit
    refine ⟨before, item, after, k, split, keyed, result, ?_⟩
    intro other member k' keyed'
    simpa [keyed'] using earlier other member
  · rintro ⟨before, item, after, k, split, keyed, result, earlier⟩
    refine ⟨before, item, after, split, by simpa [keyed] using result, ?_⟩
    intro other member
    cases keyed' : key other with
    | none => rfl
    | some k' => simpa using earlier other member k' keyed'

theorem findSome?_groupBy_eq_none_iff {key : α → Option κ} {items : List α} {f : κ × List α → Option β} :
    (groupBy key items).findSome? f = none ↔
      ∀ item ∈ items, ∀ k, key item = some k → f (k, membersOf key items k) = none := by
  rw [groupBy_eq, List.findSome?_map, findSome?_keysOf, List.findSome?_eq_none_iff]
  simp [Option.bind_eq_none_iff]

end StreamPolicy
