import StreamPolicy.Proofs.Rule.Grammar

/-!
# Reading by places

The grammar takes a raw rule apart from the front. Here a rule is read by the places of its fields
instead: how many there are is asked first, and then each one is taken by its number, with `none`
for a place that is not there. Both readings agree on every list, so no place is asked for that the
question about the number has not shown to be there.
-/

namespace StreamPolicy

/-! ## Readers -/

/-- A reading of fields by their places. It is `none` when it asks for a place behind the last one. -/
abbrev ByPlaces (α : Type) : Type := ExceptT ShapeError Option α

namespace ByPlaces

def fieldAt (fields : List Field) (index : Nat) : ByPlaces Field :=
  .lift fields[index]?

/-- The fields from a place on. The place right behind the last field is a place to start from. -/
def fieldsFrom (fields : List Field) (start : Nat) : ByPlaces (List Field) :=
  .lift (if start ≤ fields.length then some (fields.drop start) else none)

def requireLen (fields : List Field) (min : Nat) : ByPlaces Unit :=
  if fields.length < min then throw (.tooShort fields.length min) else pure ()

def textAt (fields : List Field) (index : Nat) (expected : String) : ByPlaces String := do
  Rule.readText index expected (← fieldAt fields index)

section
variable [RegexEngine]

def patternAt (fields : List Field) (index : Nat) (kind : Option MatchKind) : ByPlaces Pattern := do
  Rule.readPattern index kind (← fieldAt fields index)

def bare (fields : List Field) : ByPlaces Rule := do
  requireLen fields 2
  let mode := ModeToken.ofField (← fieldAt fields 0)
  let pattern ← patternAt fields 1 mode.kind?
  return ⟨.filePath, mode, pattern, ← fieldsFrom fields 2⟩

/-- A source, a mode, a pattern and any further fields, from a place on. -/
def rule (fields : List Field) (offset : Nat) : ByPlaces Rule := do
  requireLen fields (offset + 3)
  let source ← textAt fields offset "source"
  let mode := ModeToken.ofField (← fieldAt fields (offset + 1))
  let extra ← fieldsFrom fields (offset + 3)
  let pattern ← patternAt fields (offset + 2) mode.kind?
  return ⟨.ofText source, mode, pattern, extra⟩

def tagged (route : Decision) (fields : List Field) : ByPlaces Entry := do
  requireLen fields 4
  if fields.length = 4 then
    return .tagged route none (← rule fields 1)
  else
    let group ← textAt fields 1 "group name"
    return .tagged route (some group) (← rule fields 2)

def named (head : String) (fields : List Field) : ByPlaces Entry :=
  if fields.length = 3 then
    return .single (← rule fields 0)
  else if 4 ≤ fields.length then
    return .grouped head (← rule fields 1)
  else
    throw (.tooShort fields.length 3)

def entry (custom : List String) (fields : List Field) : ByPlaces Entry :=
  match fields.head? with
  | none => throw .empty
  | some (.int _) => .bare <$> bare fields
  | some (.str head) =>
    if (MatchMode.ofText? head).isSome then
      .bare <$> bare fields
    else
      match Decision.ofTag? head custom with
      | some route => tagged route fields
      | none => named head fields
  | some head => throw (.unexpectedField 0 "match kind, route tag, source or group name" head.display)

end

/-! ## Agreement -/

/-- A reading goes on with what it has read, or ends with its error. -/
theorem run_bind {α β : Type} {x : ByPlaces α} {result : Except ShapeError α} (next : α → ByPlaces β) :
    x.run = some result →
      (x >>= next).run =
        match result with
        | .ok a => (next a).run
        | .error err => some (.error err) := by
  intro done
  rw [ExceptT.run_bind, done]
  cases result <;> rfl

theorem run_map {α β : Type} {x : ByPlaces α} {result : Except ShapeError α} (done : x.run = some result)
    (f : α → β) : (f <$> x).run = some (result.map f) := by
  rw [ExceptT.run_map, done]
  rfl

theorem run_fieldAt {fields : List Field} {index : Nat} {f : Field} (place : fields[index]? = some f) :
    (fieldAt fields index).run = some (.ok f) := by
  rw [fieldAt, place]
  rfl

theorem run_fieldsFrom {fields : List Field} {start : Nat} (inside : start ≤ fields.length) :
    (fieldsFrom fields start).run = some (.ok (fields.drop start)) := by
  rw [fieldsFrom, if_pos inside]
  rfl

theorem run_requireLen (fields : List Field) (min : Nat) :
    (requireLen fields min).run =
      some (if fields.length < min then .error (.tooShort fields.length min) else .ok ()) := by
  unfold requireLen
  split <;> rfl

theorem run_textAt {fields : List Field} {index : Nat} {f : Field} (place : fields[index]? = some f)
    (expected : String) : (textAt fields index expected).run = some (Rule.readText index expected f) := by
  rw [textAt, run_bind _ (run_fieldAt place)]
  rfl

section
variable [RegexEngine]

theorem run_patternAt {fields : List Field} {index : Nat} {f : Field} (place : fields[index]? = some f)
    (kind : Option MatchKind) : (patternAt fields index kind).run = some (Rule.readPattern index kind f) := by
  rw [patternAt, run_bind _ (run_fieldAt place)]
  rfl

theorem run_bare (fields : List Field) : (bare fields).run = some (Rule.readBare fields) := by
  rw [bare, run_bind _ (run_requireLen fields 2)]
  match fields with
  | [] | [_] => rfl
  | kind :: pattern :: extra =>
    have enough : ¬ (kind :: pattern :: extra).length < 2 := by simp
    have first : (kind :: pattern :: extra)[0]? = some kind := rfl
    have second : (kind :: pattern :: extra)[1]? = some pattern := rfl
    simp only [if_neg enough, run_bind _ (run_fieldAt first), run_bind _ (run_patternAt second _), Rule.readBare]
    cases Rule.readPattern 1 (ModeToken.ofField kind).kind? pattern with
    | error err => rfl
    | ok p => exact run_bind _ (run_fieldsFrom (Nat.le_of_not_lt enough))

theorem run_rule (fields : List Field) (offset : Nat) :
    (rule fields offset).run = some (Rule.readAt fields.length offset (fields.drop offset)) := by
  -- The places from `offset` on are those of `rest`, counted from its own front.
  have place (i : Nat) : fields[offset + i]? = (fields.drop offset)[i]? := by rw [List.getElem?_drop]
  have behind : fields.drop (offset + 3) = (fields.drop offset).drop 3 := by rw [List.drop_drop]
  have long : (fields.drop offset).length = fields.length - offset := List.length_drop
  rw [rule, run_bind _ (run_requireLen fields (offset + 3))]
  generalize fields.drop offset = rest at place behind long ⊢
  match rest with
  | source :: kind :: pattern :: extra =>
    have first : fields[offset]? = some source := place 0
    have enough : ¬ fields.length < offset + 3 := by
      rw [List.length_cons, List.length_cons, List.length_cons] at long
      omega
    simp only [if_neg enough, run_bind _ (run_textAt first _), Rule.readAt]
    cases Rule.readText offset "source" source with
    | error err => rfl
    | ok source =>
      simp only [run_bind _ (run_fieldAt (place 1)), run_bind _ (run_fieldsFrom (Nat.le_of_not_lt enough)),
        run_bind _ (run_patternAt (place 2) _), behind]
      cases Rule.readPattern (offset + 2) (ModeToken.ofField kind).kind? pattern with
      | error err => rfl
      | ok p => rfl
  | [] | [_] | [_, _] =>
    have short : fields.length < offset + 3 := by
      simp only [List.length_cons, List.length_nil] at long
      omega
    simp only [if_pos short, Rule.readAt]

theorem run_tagged (route : Decision) (first : Field) (rest : List Field) :
    (tagged route (first :: rest)).run = some (Entry.readTagged (rest.length + 1) route rest) := by
  rw [tagged, run_bind _ (run_requireLen (first :: rest) 4)]
  match rest with
  | [] | [_] | [_, _] => rfl
  | [source, kind, pattern] => exact run_map (run_rule [first, source, kind, pattern] 1) (Entry.tagged route none)
  | group :: source :: kind :: pattern :: extra =>
    generalize whole : first :: group :: source :: kind :: pattern :: extra = fields
    have long : fields.length = extra.length + 5 := by rw [← whole]; rfl
    have second : fields[1]? = some group := by rw [← whole]; rfl
    have behind : fields.drop 2 = source :: kind :: pattern :: extra := by rw [← whole]; rfl
    have enough : ¬ fields.length < 4 := by omega
    have together : fields.length ≠ 4 := by omega
    simp only [if_neg enough, if_neg together, run_bind _ (run_textAt second _), Entry.readTagged]
    cases Rule.readText 1 "group name" group with
    | error err => rfl
    | ok group =>
      have read := run_rule fields 2
      rw [behind, long] at read
      exact run_map read (Entry.tagged route (some group))

theorem run_named (head : String) (rest : List Field) :
    (named head (.str head :: rest)).run = some (Entry.readNamed head rest) := by
  unfold named
  match rest with
  | [] | [_] => rfl
  | [kind, pattern] => exact run_map (run_rule [.str head, kind, pattern] 0) Entry.single
  | source :: kind :: pattern :: extra =>
    have more : (Field.str head :: source :: kind :: pattern :: extra).length ≠ 3 := by simp
    have enough : 4 ≤ (Field.str head :: source :: kind :: pattern :: extra).length := by simp
    rw [if_neg more, if_pos enough]
    exact run_map (run_rule _ 1) (Entry.grouped head)

theorem run_entry (custom : List String) (fields : List Field) :
    (entry custom fields).run = some (Entry.read custom fields) := by
  match fields with
  | [] => rfl
  | .int n :: rest => exact run_map (run_bare _) Entry.bare
  | .str head :: rest =>
    by_cases opens : (Field.str head).OpensBare
    · have mode := (MatchMode.ofText?_isSome_iff head).mpr opens
      simp only [entry, List.head?_cons, if_pos mode, Entry.read_cons_of_opens opens]
      exact run_map (run_bare _) Entry.bare
    · have modeless := mt (MatchMode.ofText?_isSome_iff head).mp opens
      simp only [entry, List.head?_cons, if_neg modeless]
      cases tag : Decision.ofTag? head custom with
      | some route =>
        rw [Entry.read_cons_of_tagged opens (Decision.ofTag?_eq_some_iff.mp tag)]
        exact run_tagged route _ rest
      | none =>
        rw [Entry.read_cons_of_named ⟨opens, Decision.ofTag?_eq_none_iff.mp tag⟩]
        exact run_named head rest
  | .list items :: rest => rfl
  | .other v :: rest => rfl

end

end ByPlaces

/-- A raw rule is read exactly when it is a list of the grammar, and then as the entry that the
grammar has for it; what an error says about the list, its length and what stands at a place, is
so. Reading it by the places of its fields comes to the same, and never asks for a place that is
not there. -/
theorem Entry.read_iff_spelled [RegexEngine] (custom : List String) (fields : List Field) :
    (∀ e, read custom fields = .ok e ↔ Spelled custom fields e) ∧
      (∀ err, read custom fields = .error err → err.Describes fields) ∧
      (ByPlaces.entry custom fields).run = some (read custom fields) := by
  refine ⟨fun e => read_eq_ok_iff, fun err failed => describes_of_read failed, ?_⟩
  exact ByPlaces.run_entry custom fields

end StreamPolicy
