import Mathlib.Data.List.Sort
import StreamPolicy.Proofs.Rule.Grouping

/-!
# Groups as a partition

Putting items together by key divides those that have one: each group is what the list holds of its key,
and the groups stand in the order in which their keys first appear. No other list of groups does that.
-/

namespace StreamPolicy

variable {α κ : Type} [DecidableEq κ] {key : α → Option κ} {items : List α} {groups : List (κ × List α)}

/-- The place of the first item of a list that has a key. -/
def firstPlace (key : α → Option κ) (items : List α) (k : κ) : Nat :=
  items.findIdx fun item => key item = some k

/-- The items of a list that have a key, divided by it in the order of first appearance. -/
structure IsPartition (key : α → Option κ) (items : List α) (groups : List (κ × List α)) : Prop where
  distinct : (groups.map Prod.fst).Nodup
  ordered : groups.Pairwise fun g g' => firstPlace key items g.1 < firstPlace key items g'.1
  members : ∀ g ∈ groups, g.2 = items.filter fun item => key item = some g.1
  inhabited : ∀ g ∈ groups, g.2 ≠ []
  keyed : ∀ g ∈ groups, ∀ item ∈ g.2, key item ≠ none
  once : ∀ item ∈ items, key item ≠ none → ∃! g, g ∈ groups ∧ item ∈ g.2

/-! ## The order of the keys -/

theorem firstPlace_lt {k : κ} (listed : k ∈ keysOf key items) : firstPlace key items k < items.length := by
  obtain ⟨item, member, keyed⟩ := mem_keysOf.mp listed
  exact List.findIdx_lt_length.mpr ⟨item, member, decide_eq_true keyed⟩

theorem firstPlace_append_old {k : κ} (old : k ∈ keysOf key items) (item : α) :
    firstPlace key (items ++ [item]) k = firstPlace key items k := by
  have inside := firstPlace_lt old
  rw [firstPlace] at inside ⊢
  rw [List.findIdx_append, if_pos inside, firstPlace]

theorem firstPlace_append_new {k : κ} {item : α} (keyed : key item = some k) (new : k ∉ keysOf key items) :
    firstPlace key (items ++ [item]) k = items.length := by
  have outside : ¬ items.findIdx (fun item => key item = some k) < items.length := by
    intro inside
    obtain ⟨earlier, member, keyed'⟩ := List.findIdx_lt_length.mp inside
    exact new (mem_keysOf.mpr ⟨earlier, member, of_decide_eq_true keyed'⟩)
  rw [firstPlace, List.findIdx_append, if_neg outside]
  simp [keyed]

/-- Each key of a list first appears behind the keys before it. -/
theorem pairwise_keysOf (key : α → Option κ) (items : List α) :
    (keysOf key items).Pairwise fun k k' => firstPlace key items k < firstPlace key items k' := by
  -- Items are added at the end of the list, where they do not move the places that are known.
  induction items using List.reverseRecOn with
  | nil => exact .nil
  | append_singleton items item ih =>
    have kept : (keysOf key items).Pairwise fun k k' =>
        firstPlace key (items ++ [item]) k < firstPlace key (items ++ [item]) k' := by
      refine ih.imp_of_mem fun listed listed' before => ?_
      rwa [firstPlace_append_old listed, firstPlace_append_old listed']
    cases keyed : key item with
    | none => rwa [keysOf_append_none keyed]
    | some k =>
      by_cases old : k ∈ keysOf key items
      · rwa [keysOf_append_old keyed old]
      · rw [keysOf_append_new keyed old, List.pairwise_append]
        refine ⟨kept, List.pairwise_singleton _ _, fun k' listed new single => ?_⟩
        rw [List.mem_singleton.mp single, firstPlace_append_old listed, firstPlace_append_new keyed old]
        exact firstPlace_lt listed

/-! ## The groups -/

theorem map_fst_groupBy (key : α → Option κ) (items : List α) :
    (groupBy key items).map Prod.fst = keysOf key items := by
  rw [groupBy_eq, List.map_map]
  exact List.map_id _

theorem nodup_keysOf (key : α → Option κ) (items : List α) : (keysOf key items).Nodup :=
  (pairwise_keysOf key items).imp fun before same => Nat.ne_of_lt before (congrArg _ same)

theorem isPartition_groupBy (key : α → Option κ) (items : List α) : IsPartition key items (groupBy key items) where
  distinct := by
    rw [map_fst_groupBy]
    exact nodup_keysOf key items
  ordered := by
    rw [groupBy_eq, List.pairwise_map]
    exact pairwise_keysOf key items
  members := fun g listed => (mem_groupBy.mp listed).2
  inhabited := by
    intro g listed empty
    obtain ⟨occurs, members⟩ := mem_groupBy.mp listed
    obtain ⟨item, member, keyed⟩ := mem_keysOf.mp occurs
    rw [empty] at members
    exact List.not_mem_nil (members ▸ mem_membersOf.mpr ⟨member, keyed⟩)
  keyed := by
    intro g listed item member
    rw [(key_of_mem_groupBy listed member).2]
    exact Option.some_ne_none g.1
  once := by
    intro item member keyed
    obtain ⟨k, keyed⟩ := Option.ne_none_iff_exists'.mp keyed
    refine ⟨(k, membersOf key items k), ⟨?_, ?_⟩, ?_⟩
    · exact mem_groupBy.mpr ⟨mem_keysOf.mpr ⟨item, member, keyed⟩, rfl⟩
    · exact mem_membersOf.mpr ⟨member, keyed⟩
    · rintro g ⟨listed, inside⟩
      have same : k = g.1 := Option.some.inj (keyed.symm.trans (key_of_mem_groupBy listed inside).2)
      rw [same]
      exact Prod.ext rfl (mem_groupBy.mp listed).2

/-! ## No other partition -/

namespace IsPartition

theorem mem_keys_iff (divided : IsPartition key items groups) {k : κ} :
    k ∈ groups.map Prod.fst ↔ k ∈ keysOf key items := by
  rw [mem_keysOf]
  constructor
  · intro named
    obtain ⟨g, listed, rfl⟩ := List.mem_map.mp named
    obtain ⟨item, inside⟩ := List.exists_mem_of_ne_nil _ (divided.inhabited g listed)
    rw [divided.members g listed] at inside
    exact ⟨item, mem_membersOf.mp inside⟩
  · rintro ⟨item, member, keyed⟩
    obtain ⟨g, ⟨listed, inside⟩, _⟩ := divided.once item member (by simp [keyed])
    rw [divided.members g listed] at inside
    have same : k = g.1 := Option.some.inj (keyed.symm.trans (mem_membersOf.mp inside).2)
    exact same ▸ List.mem_map_of_mem listed

/-- The keys of a partition are those of the list, since one order of first appearance admits one list. -/
theorem keys_eq (divided : IsPartition key items groups) : groups.map Prod.fst = keysOf key items := by
  have order := pairwise_keysOf key items
  have order' : (groups.map Prod.fst).Pairwise fun k k' => firstPlace key items k < firstPlace key items k' :=
    List.pairwise_map.mpr divided.ordered
  have same : (groups.map Prod.fst).Perm (keysOf key items) :=
    (List.perm_ext_iff_of_nodup divided.distinct (nodup_keysOf key items)).mpr fun _ => divided.mem_keys_iff
  refine same.eq_of_pairwise (fun k k' _ _ before behind => ?_) order' order
  exact absurd before (Nat.lt_asymm behind)

end IsPartition

/-- Putting items together by key gives the partition of those that have one, and gives no other list. -/
theorem groupBy_eq_iff_isPartition {key : α → Option κ} {items : List α} {groups : List (κ × List α)} :
    groupBy key items = groups ↔ IsPartition key items groups := by
  constructor
  · rintro rfl
    exact isPartition_groupBy key items
  · intro divided
    have whole : ∀ g ∈ groups, (g.1, membersOf key items g.1) = g := fun g listed =>
      Prod.ext rfl (divided.members g listed).symm
    calc groupBy key items
        = (groups.map Prod.fst).map fun k => (k, membersOf key items k) := by rw [groupBy_eq, divided.keys_eq]
      _ = groups.map fun g => (g.1, membersOf key items g.1) := List.map_map
      _ = groups.map id := List.map_congr_left whole
      _ = groups := List.map_id groups

example : groupBy (fun n : Nat => if n < 10 then some (n % 3) else none) [5, 12, 3, 2, 5] = [(2, [5, 2, 5]), (0, [3])] := by
  decide

end StreamPolicy
