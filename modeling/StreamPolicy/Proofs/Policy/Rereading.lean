import StreamPolicy.Policy.Reading
import StreamPolicy.Proofs.Json.Members

/-!
# Policies read back

A rule field stands for one value: the one that it is read from and that it is written as. A policy that
was read is written with its rules as they were, and reading it again gives the same policy, in whichever
form it was written at first and whatever it left out.
-/

namespace StreamPolicy

open StreamPolicy.Json

/-! ## Fields -/

namespace Field

mutual

/-- How a field stands for a value: integers of 64 bits, texts and arrays have forms of their own, and any
other value stands for itself. -/
inductive StandsFor : Field → Value → Prop
  | int {n : Int} (low : Text.int64Min ≤ n) (high : n ≤ Text.int64Max) : StandsFor (.int n) (.num (.int n))
  | str (s : String) : StandsFor (.str s) (.str s)
  | list {fields : List Field} {items : List Value} (each : StandForItems fields items) :
    StandsFor (.list fields) (.arr items)
  | other {v : Value} (noInt : v.int64? = none) (noText : v.str? = none) (noArray : v.arr? = none) :
    StandsFor (.other v) v

/-- How some fields stand for some values, one for one. -/
inductive StandForItems : List Field → List Value → Prop
  | nil : StandForItems [] []
  | cons {f : Field} {v : Value} {fields : List Field} {items : List Value} (first : StandsFor f v)
    (rest : StandForItems fields items) : StandForItems (f :: fields) (v :: items)

end

mutual

/-- A value is read as the field that stands for it. -/
theorem standsFor_ofJson : (v : Value) → (ofJson v).StandsFor v
  | .null => .other rfl rfl rfl
  | .bool _ => .other rfl rfl rfl
  | .num (.int n) => by
    rw [ofJson]
    split
    next fits => exact .int fits.1 fits.2
    next wide => exact .other (if_neg wide) rfl rfl
  | .num (.float _) => .other rfl rfl rfl
  | .str s => .str s
  | .arr items => .list (standForItems_ofJsonItems items)
  | .obj _ => .other rfl rfl rfl

theorem standForItems_ofJsonItems : (items : List Value) → StandForItems (ofJsonItems items) items
  | [] => .nil
  | v :: items => .cons (standsFor_ofJson v) (standForItems_ofJsonItems items)

end

mutual

theorem StandsFor.toJson_eq {f : Field} {v : Value} : f.StandsFor v → f.toJson = v
  | .int _ _ => rfl
  | .str _ => rfl
  | .list each => congrArg Value.arr each.toJsonItems_eq
  | .other _ _ _ => rfl

theorem StandForItems.toJsonItems_eq {fields : List Field} {items : List Value} :
    StandForItems fields items → toJsonItems fields = items
  | .nil => rfl
  | .cons first rest => congrArg₂ List.cons first.toJson_eq rest.toJsonItems_eq

end

theorem ofJson_of_other {v : Value} (noInt : v.int64? = none) (noText : v.str? = none) (noArray : v.arr? = none) :
    ofJson v = .other v := by
  cases v with
  | null => rfl
  | bool b => rfl
  | num n =>
    cases n with
    | int n =>
      rw [ofJson, if_neg]
      intro fits
      rw [Value.int64?, if_pos fits] at noInt
      cases noInt
    | float bits => rfl
  | str s => cases noText
  | arr items => cases noArray
  | obj ms => rfl

mutual

theorem StandsFor.ofJson_eq {f : Field} {v : Value} : f.StandsFor v → ofJson v = f
  | .int low high => if_pos ⟨low, high⟩
  | .str _ => rfl
  | .list each => congrArg Field.list each.ofJsonItems_eq
  | .other noInt noText noArray => ofJson_of_other noInt noText noArray

theorem StandForItems.ofJsonItems_eq {fields : List Field} {items : List Value} :
    StandForItems fields items → ofJsonItems items = fields
  | .nil => rfl
  | .cons first rest => congrArg₂ List.cons first.ofJson_eq rest.ofJsonItems_eq

end

theorem ofJson_eq_iff {v : Value} {f : Field} : ofJson v = f ↔ f.StandsFor v :=
  ⟨fun read => read ▸ standsFor_ofJson v, StandsFor.ofJson_eq⟩

end Field

/-! ## Storages -/

/-- Hours are any number of 64 bits, and none are written as `null`. -/
theorem Storage.orNull?_hours (hours : Option UInt64) :
    Value.orNull? Value.uint64? (.ofOption (fun h => .nat h.toNat) hours) = some (hours.map UInt64.toNat) := by
  cases hours with
  | none => rfl
  | some h =>
    have below : (h.toNat : Int) ≤ Text.uint64Max := by
      have := h.toNat_lt
      unfold Text.uint64Max
      omega
    simp [Value.ofOption, Value.nat, Value.orNull?, Value.uint64?, below]

/-- Every storage is read back, also one that no value was read as. -/
theorem Storage.ofJson?_toJson (s : Storage) : ofJson? s.toJson = some s := by
  rw [ofJson?, toJson, Record.ofValue?_object]
  simp [Record.usual?, Record.get?_ofList, Value.str?, Value.bool?, orNull?_hours, Function.comp_def]

namespace Policy

/-! ## Lists of a policy -/

theorem texts?_strs (ss : List String) : texts? (.strs ss) = some ss :=
  Value.list?_map fun _ _ => rfl

theorem fields?_map {fields : List Field} (raw : ∀ f ∈ fields, f.StandsFor f.toJson) :
    fields? (.arr (fields.map Field.toJson)) = some fields :=
  Value.list?_map fun f member => congrArg some (raw f member).ofJson_eq

/-- An array is read as the fields that stand for its items. -/
theorem of_fields? {v : Value} {fields : List Field} (read : fields? v = some fields) :
    v = .arr (fields.map Field.toJson) ∧ ∀ f ∈ fields, f.StandsFor f.toJson := by
  obtain ⟨items, rfl⟩ : ∃ items, v = .arr items := by
    cases v with
    | arr items => exact ⟨items, rfl⟩
    | null | bool | num | str | obj => cases read
  have same : items.mapM (m := Option) (fun v => pure (Field.ofJson v)) = some fields := read
  rw [List.mapM_pure] at same
  cases same
  have back (item : Value) : (Field.ofJson item).toJson = item := (Field.standsFor_ofJson item).toJson_eq
  constructor
  · simp [Function.comp_def, back]
  · intro f member
    obtain ⟨item, -, rfl⟩ := List.mem_map.mp member
    rw [back]
    exact Field.standsFor_ofJson item

/-! ## Policies -/

/-- The lists of rules of a policy, by the keys under which they are written. -/
def ruleLists (p : Policy) : List (String × List Field) :=
  [("route_rule", p.routeRules), ("client_link_rule", p.clientLinkRules), ("item_hidden_rule", p.hideRules),
    ("path_mapping", p.mappings)]

/-- What a value gives for a list of rules; a list that it leaves out is empty. -/
def ruleListOf (v : Value) (key : String) : Value :=
  ((Record.ofValue? keys v).bind (·.get? key)).getD (.arr [])

/-- The rules of a policy stand, one for one, for those that a value gives. -/
def HasRulesOf (p : Policy) (v : Value) : Prop :=
  ∀ list ∈ p.ruleLists, ruleListOf v list.1 = .arr (list.2.map Field.toJson) ∧ ∀ f ∈ list.2, f.StandsFor f.toJson

theorem of_usual?_fields {r : Record} {key : String} {fields : List Field}
    (read : r.usual? key fields? [] = some fields) :
    (r.get? key).getD (.arr []) = .arr (fields.map Field.toJson) ∧ ∀ f ∈ fields, f.StandsFor f.toJson := by
  rw [Record.usual?] at read
  cases written : r.get? key with
  | some v =>
    rw [written] at read
    exact of_fields? read
  | none =>
    rw [written] at read
    cases read
    exact ⟨rfl, nofun⟩

theorem hasRulesOf_of_ofJson? {v : Value} {p : Policy} (read : ofJson? v = some p) : p.HasRulesOf v := by
  simp only [ofJson?, bind, Option.bind_eq_some_iff] at read
  obtain ⟨r, record, _, -, _, -, _, -, _, routes, _, clients, _, hides, _, mappings, _, -, made⟩ := read
  cases made
  have given (key : String) : ruleListOf v key = (r.get? key).getD (.arr []) := by
    rw [ruleListOf, record, Option.bind_some]
  simp only [HasRulesOf, ruleLists, List.forall_mem_cons, given]
  exact ⟨of_usual?_fields routes, of_usual?_fields clients, of_usual?_fields hides, of_usual?_fields mappings, nofun⟩

theorem ofJson?_toJson {p : Policy} (raw : ∀ list ∈ p.ruleLists, ∀ f ∈ list.2, f.StandsFor f.toJson) :
    ofJson? p.toJson = some p := by
  simp only [ruleLists, List.forall_mem_cons] at raw
  obtain ⟨routes, clients, hides, mappings, -⟩ := raw
  rw [ofJson?, toJson, Record.ofValue?_object]
  simp [Record.usual?, Record.required?, Record.get?_ofList, Value.str?, texts?_strs, fields?_map routes,
    fields?_map clients, fields?_map hides, fields?_map mappings, Storage.ofJson?_toJson]

/-- Every value is read as the field that stands for it, and is written back. A value that is read as a
policy gives the policy its rules, and the policy is read back, with the same rules, from the value that it
is written as. -/
theorem rules_survive :
    (∀ v : Value, (∀ f, Field.ofJson v = f ↔ f.StandsFor v) ∧ (Field.ofJson v).toJson = v) ∧
      ∀ (v : Value) (p : Policy), ofJson? v = some p →
        p.HasRulesOf v ∧ ofJson? p.toJson = some p ∧ p.HasRulesOf p.toJson := by
  refine ⟨fun v => ?_, fun v p read => ?_⟩
  · exact ⟨fun f => Field.ofJson_eq_iff, (Field.standsFor_ofJson v).toJson_eq⟩
  · have rules := hasRulesOf_of_ofJson? read
    have back := ofJson?_toJson fun list member => (rules list member).2
    exact ⟨rules, back, hasRulesOf_of_ofJson? back⟩

/-- A policy with its fields out of order and its storage as an array, and a rule with an integer that is too
large, an object and a list inside a list. -/
theorem rules_survive_mixed :
    let wide : Value := .int 9223372036854775808
    let inner : Value := .obj [("a", .arr [.int 1, .null])]
    let v : Value := .obj [("storage", .arr [.str "http://h", .bool true]),
      ("route_rule", .arr [.arr [.int (-9223372036854775808), wide, .arr [inner, .str "x"]], .bool true]),
      ("spare", .null), ("version", .str "1.0")]
    let p : Policy := ⟨"1.0", [], [],
      [.list [.int (-9223372036854775808), .other wide, .list [.other inner, .str "x"]], .other (.bool true)], [], [], [],
      ⟨"http://h", true, "", none⟩⟩
    ofJson? v = some p ∧ p.HasRulesOf v ∧ ofJson? p.toJson = some p ∧ p.HasRulesOf p.toJson := by
  intro wide inner v p
  have read : ofJson? v = some p := rfl
  exact ⟨read, rules_survive.2 v p read⟩

end Policy

end StreamPolicy
