import StreamPolicy.Proofs.Json.Reading

/-!
# Values inside a value

A value is in order when the members of all objects inside it are, and whole when all numbers inside it are
integers of 64 bits. Putting a value that is in order in order changes nothing. A whole value that does not
nest too deep is read back.
-/

namespace StreamPolicy.Json

mutual

/-- A value and all values inside it. -/
def Value.parts : Value → List Value
  | .arr items => .arr items :: partsOfItems items
  | .obj ms => .obj ms :: partsOfMembers ms
  | v => [v]

def partsOfItems : List Value → List Value
  | [] => []
  | v :: rest => v.parts ++ partsOfItems rest

def partsOfMembers : List (String × Value) → List Value
  | [] => []
  | (_, v) :: rest => v.parts ++ partsOfMembers rest

end

mutual

/-- How many arrays and objects stand inside each other. -/
def Value.levels : Value → Nat
  | .arr items => levelsOfItems items + 1
  | .obj ms => levelsOfMembers ms + 1
  | _ => 0

def levelsOfItems : List Value → Nat
  | [] => 0
  | v :: rest => max v.levels (levelsOfItems rest)

def levelsOfMembers : List (String × Value) → Nat
  | [] => 0
  | (_, v) :: rest => max v.levels (levelsOfMembers rest)

end

/-- The members of an object stand in ascending order of their keys, each key once. -/
def Value.HasOrder : Value → Prop
  | .obj ms => ms.Pairwise fun a b => a.1 < b.1
  | _ => True

/-- A number is an integer of 64 bits, with sign or without. -/
def Value.HasWidth : Value → Prop
  | .num (.int n) => Text.int64Min ≤ n ∧ n ≤ Text.uint64Max
  | .num (.float _) => False
  | _ => True

instance : DecidablePred Value.HasOrder
  | .obj ms => inferInstanceAs (Decidable (ms.Pairwise fun a b => a.1 < b.1))
  | .null | .bool _ | .num _ | .str _ | .arr _ => .isTrue trivial

instance : DecidablePred Value.HasWidth
  | .num (.int n) => inferInstanceAs (Decidable (Text.int64Min ≤ n ∧ n ≤ Text.uint64Max))
  | .num (.float _) => .isFalse not_false
  | .null | .bool _ | .str _ | .arr _ | .obj _ => .isTrue trivial

/-- All objects inside a value are in order. -/
def Value.Ordered (v : Value) : Prop :=
  ∀ part ∈ v.parts, part.HasOrder

/-- All numbers inside a value are integers of 64 bits. -/
def Value.Whole (v : Value) : Prop :=
  ∀ part ∈ v.parts, part.HasWidth

instance : DecidablePred Value.Ordered :=
  fun v => inferInstanceAs (Decidable (∀ part ∈ v.parts, part.HasOrder))

instance : DecidablePred Value.Whole :=
  fun v => inferInstanceAs (Decidable (∀ part ∈ v.parts, part.HasWidth))

/-! ## Objects in order -/

theorem Members.insert_of_above {key : String} {v : Value} {ms : Members} (above : ∀ m ∈ ms, m.1 < key) :
    insert key v ms = ms ++ [(key, v)] := by
  induction ms with
  | nil => rfl
  | cons first ms ih =>
    obtain ⟨k, w⟩ := first
    obtain ⟨below, later⟩ := List.forall_mem_cons.mp above
    have other : k ≠ key := fun same => String.lt_irrefl key (same ▸ below)
    have behind : ¬ key < k := fun before => String.lt_irrefl key (String.lt_trans before below)
    rw [insert, if_neg other, if_neg behind, ih later]
    rfl

theorem Members.ofList_of_ascending {ms : Members} (ascending : ms.Pairwise fun a b => a.1 < b.1) : ofList ms = ms := by
  induction ms using List.reverseRecOn with
  | nil => rfl
  | append_singleton ms last ih =>
    obtain ⟨early, -, above⟩ := List.pairwise_append.mp ascending
    rw [ofList_concat, ih early, insert_of_above fun m member => above m member last (List.mem_singleton_self last)]

theorem Value.hasOrder_sorted (v : Value) : v.sorted.HasOrder := by
  cases v with
  | obj ms => exact Members.ascending_ofList _
  | _ => trivial

mutual

/-- Nothing changes when a value in order is put in order. -/
theorem Value.sorted_of_parts : (v : Value) → (∀ part ∈ v.parts, part.HasOrder) → v.sorted = v
  | .null, _ | .bool _, _ | .num _, _ | .str _, _ => rfl
  | .arr items, ordered => by
    rw [Value.sorted, sortedItems_of_parts items (List.forall_mem_cons.mp ordered).2]
  | .obj ms, ordered => by
    obtain ⟨ascending, inside⟩ := List.forall_mem_cons.mp ordered
    rw [Value.sorted, sortedMembers_of_parts ms inside, Members.ofList_of_ascending ascending]

theorem sortedItems_of_parts : (items : List Value) → (∀ part ∈ partsOfItems items, part.HasOrder) →
    Value.sortedItems items = items
  | [], _ => rfl
  | v :: rest, ordered => by
    obtain ⟨first, others⟩ := List.forall_mem_append.mp ordered
    rw [Value.sortedItems, v.sorted_of_parts first, sortedItems_of_parts rest others]

theorem sortedMembers_of_parts : (ms : List (String × Value)) → (∀ part ∈ partsOfMembers ms, part.HasOrder) →
    Value.sortedMembers ms = ms
  | [], _ => rfl
  | (k, v) :: rest, ordered => by
    obtain ⟨first, others⟩ := List.forall_mem_append.mp ordered
    rw [Value.sortedMembers, v.sorted_of_parts first, sortedMembers_of_parts rest others]

end

theorem Value.Ordered.sorted_eq {v : Value} (ordered : v.Ordered) : v.sorted = v :=
  v.sorted_of_parts ordered

/-! ## Whole values are read back -/

mutual

theorem Value.legible_of_parts : (v : Value) → (∀ part ∈ v.parts, part.HasWidth) → {depth : Nat} → v.levels ≤ depth →
    v.Legible depth
  | .null, _, _, _ | .bool _, _, _, _ | .str _, _, _, _ => trivial
  | .num (.int n), whole, _, _ => by
    obtain ⟨low, high⟩ : Text.int64Min ≤ n ∧ n ≤ Text.uint64Max := whole _ (List.mem_singleton_self _)
    exact Number.legible_int low high
  | .num (.float bits), whole, _, _ => (whole _ (List.mem_singleton_self _)).elim
  | .arr items, whole, depth, shallow => by
    have inside : levelsOfItems items ≤ depth - 1 := Nat.le_sub_one_of_lt shallow
    exact ⟨Nat.zero_lt_of_lt shallow, legibleItems_of_parts items (List.forall_mem_cons.mp whole).2 inside⟩
  | .obj ms, whole, depth, shallow => by
    have inside : levelsOfMembers ms ≤ depth - 1 := Nat.le_sub_one_of_lt shallow
    exact ⟨Nat.zero_lt_of_lt shallow, legibleMembers_of_parts ms (List.forall_mem_cons.mp whole).2 inside⟩

theorem legibleItems_of_parts : (items : List Value) → (∀ part ∈ partsOfItems items, part.HasWidth) →
    {depth : Nat} → levelsOfItems items ≤ depth → LegibleItems depth items
  | [], _, _, _ => trivial
  | v :: rest, whole, depth, shallow => by
    obtain ⟨first, others⟩ := List.forall_mem_append.mp whole
    obtain ⟨here, later⟩ := max_le_iff.mp shallow
    exact ⟨v.legible_of_parts first here, legibleItems_of_parts rest others later⟩

theorem legibleMembers_of_parts : (ms : List (String × Value)) → (∀ part ∈ partsOfMembers ms, part.HasWidth) →
    {depth : Nat} → levelsOfMembers ms ≤ depth → LegibleMembers depth ms
  | [], _, _, _ => trivial
  | (_, v) :: rest, whole, depth, shallow => by
    obtain ⟨first, others⟩ := List.forall_mem_append.mp whole
    obtain ⟨here, later⟩ := max_le_iff.mp shallow
    exact ⟨v.legible_of_parts first here, legibleMembers_of_parts rest others later⟩

end

/-- A whole value is read back where as many levels may open as it has. -/
theorem Value.Whole.legible {v : Value} (whole : v.Whole) {depth : Nat} (shallow : v.levels ≤ depth) : v.Legible depth :=
  v.legible_of_parts whole shallow

end StreamPolicy.Json
