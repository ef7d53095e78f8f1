import StreamPolicy.Proofs.Request.Expression

/-!
# Building a request

A request starts from nothing or from a tree of any kind, and facts and properties are put into it in any
order. Its tree stays an object, so a section can always be opened: one that is missing or no object gives
way to an empty one. A fact that was put in is read back by its name and by its expression, and the other
facts read as before.
-/

namespace StreamPolicy

open StreamPolicy.Json

/-- A text that is known about a request. -/
inductive Fact where
  /-- A query argument. -/
  | arg (name : String)
  /-- A header. -/
  | header (name : String)
  /-- The address of the client. -/
  | remoteAddr
  deriving DecidableEq

namespace Fact

/-- The section that holds a fact. -/
def inSection : Fact → String
  | .arg _ => Context.argsSection
  | .header _ => Context.headersSection
  | .remoteAddr => Context.variablesSection

/-- The key of a fact in its section. -/
def key : Fact → String
  | .arg name => name
  | .header name => name
  | .remoteAddr => Context.remoteAddrKey

/-- The expression that reads a fact. -/
def expression : Fact → String
  | .arg name => "r.args." ++ name
  | .header name => "r.headersIn." ++ name
  | .remoteAddr => "r.variables.remote_addr"

/-- The key holds none of the separators of expressions. -/
structure Addressable (f : Fact) : Prop where
  noDot : '.' ∉ f.key.toList
  noColon : ':' ∉ f.key.toList

theorem addressable_remoteAddr : remoteAddr.Addressable :=
  ⟨by decide, by decide⟩

theorem eq_of_place {f g : Fact} (sameSection : f.inSection = g.inSection) (sameKey : f.key = g.key) : f = g := by
  cases f <;> cases g <;> simp_all [inSection, key, Context.argsSection, Context.headersSection, Context.variablesSection]

end Fact

namespace Context

variable (ctx : Context)

/-- The text of a fact. -/
def fact? : Fact → Option String
  | .arg name => ctx.arg? name
  | .header name => ctx.header? name
  | .remoteAddr => ctx.remoteAddr?

/-- The request with a fact. -/
def withFact (f : Fact) (value : String) : Context :=
  match f with
  | .arg name => ctx.withArg name value
  | .header name => ctx.withHeader name value
  | .remoteAddr => ctx.withRemoteAddr value

/-! ## Reading what was put in -/

theorem fact?_eq (f : Fact) : ctx.fact? f = ctx.text? f.inSection f.key := by
  cases f <;> rfl

theorem withFact_eq (f : Fact) (value : String) : ctx.withFact f value = ctx.put f.inSection f.key value := by
  cases f <;> rfl

theorem get?_put (inSection key value name : String) :
    Members.get? name (ctx.put inSection key value).members =
      if inSection = name then some (.obj (Members.insert key (.str value) (ctx.sectionMembers inSection)))
      else Members.get? name ctx.members :=
  Members.get?_insert name inSection _ ctx.members

/-- A section that is missing or no object has no texts. -/
theorem text?_eq (inSection key : String) :
    ctx.text? inSection key = (Members.get? key (ctx.sectionMembers inSection)).bind Value.str? := by
  rw [text?, sectionMembers]
  cases Members.get? inSection ctx.members with
  | none => rfl
  | some v => cases v <;> rfl

theorem sectionMembers_put (inSection key value name : String) :
    (ctx.put inSection key value).sectionMembers name =
      if inSection = name then Members.insert key (.str value) (ctx.sectionMembers inSection)
      else ctx.sectionMembers name := by
  rw [sectionMembers, get?_put]
  by_cases here : inSection = name
  · simp [here]
  · simp [here, sectionMembers]

theorem text?_put (inSection key value inSection' key' : String) :
    (ctx.put inSection key value).text? inSection' key' =
      if inSection = inSection' ∧ key = key' then some value else ctx.text? inSection' key' := by
  rw [text?_eq, sectionMembers_put, text?_eq]
  by_cases here : inSection = inSection'
  · subst here
    rw [if_pos rfl, Members.get?_insert]
    by_cases there : key = key' <;> simp [there, Value.str?]
  · simp [here]

theorem fact?_withFact (f g : Fact) (value : String) :
    (ctx.withFact f value).fact? g = if f = g then some value else ctx.fact? g := by
  have place : f.inSection = g.inSection ∧ f.key = g.key ↔ f = g :=
    ⟨fun same => Fact.eq_of_place same.1 same.2, fun same => same ▸ ⟨rfl, rfl⟩⟩
  rw [withFact_eq, fact?_eq, text?_put, fact?_eq]
  simp only [place]

end Context

/-! ## Reading by an expression -/

namespace Expression

/-- An expression without a group separator is one path. -/
theorem texts_of_path (root : Value) {path : String} (single : ':' ∉ path.toList)
    (visible : Text.isBlankText path = false) : texts root path = ((descend? root (steps path)).bind truthy?).toList := by
  have alone : Text.split path groupSeparator = [path] := by
    rw [Text.split_singleton path (x := ':') rfl, List.splitOn_eq_singleton single]
    simp
  have led : lookup? root path propertySeparator = descend? root (steps path) := rfl
  rw [texts, values, alone, List.filter_singleton, visible]
  cases valued : (descend? root (steps path)).bind truthy? <;> simp [led, valued]

end Expression

namespace Fact

open Expression

theorem toList_expression (f : Fact) :
    f.expression.toList = 'r' :: '.' :: (f.inSection.toList ++ '.' :: f.key.toList) := by
  cases f with
  | arg name => simp [expression, inSection, key, Context.argsSection]
  | header name => simp [expression, inSection, key, Context.headersSection]
  | remoteAddr => rfl

theorem inSection_plain (f : Fact) : '.' ∉ f.inSection.toList ∧ ':' ∉ f.inSection.toList := by
  cases f with
  | arg name => exact (by decide : '.' ∉ Context.argsSection.toList ∧ ':' ∉ Context.argsSection.toList)
  | header name => exact (by decide : '.' ∉ Context.headersSection.toList ∧ ':' ∉ Context.headersSection.toList)
  | remoteAddr => decide

theorem steps_expression {f : Fact} (addressable : f.Addressable) : steps f.expression = [f.inSection, f.key] := by
  have root : '.' ∉ ['r'] := by decide
  have whole : f.expression.toList = ['r'] ++ '.' :: (f.inSection.toList ++ '.' :: f.key.toList) := f.toList_expression
  rw [steps, Text.split_singleton _ (x := '.') rfl, whole, List.splitOn_append_cons_self_of_not_mem root,
    List.splitOn_append_cons_self_of_not_mem f.inSection_plain.1, List.splitOn_eq_singleton addressable.noDot]
  simp

/-- The expression of a fact leads to what was put in. -/
theorem resolveUsual_withFact {f : Fact} (addressable : f.Addressable) {value : String} (inhabited : value ≠ "")
    (ctx : Context) : resolveUsual (some (ctx.withFact f value).tree) f.expression = .ok (some value) := by
  have single : ':' ∉ f.expression.toList := by
    simp [toList_expression, f.inSection_plain.2, addressable.noColon]
  have visible : Text.isBlankText f.expression = false := by
    rw [Text.isBlankText, toList_expression, List.all_cons]
    rfl
  have found : descend? (ctx.withFact f value).tree [f.inSection, f.key] = some (.str value) := by
    simp [ctx.withFact_eq, descend?, child?, Context.tree, ctx.get?_put, Members.get?_insert]
  have only : texts (ctx.withFact f value).tree f.expression = [value] := by
    rw [texts_of_path _ single visible, steps_expression addressable, found]
    simp [truthy?, inhabited]
  rw [resolveUsual_eq, visible, only]
  simp [Text.join]

end Fact

/-! ## Building -/

/-- One step of building a request. -/
inductive BuildStep where
  /-- A fact is put in, in place of what it was before. -/
  | fact (f : Fact) (value : String)
  /-- A property beside the sections is put in, or in place of a section. -/
  | property (name : String) (value : Value)

namespace BuildStep

/-- The request after a step. -/
def apply (ctx : Context) : BuildStep → Context
  | .fact f value => ctx.withFact f value
  | .property name value => ctx.withProperty name value

end BuildStep

namespace Context

/-- The request that building starts with: one with a tree, or one about which nothing is known. -/
def start : Option Value → Context
  | some tree => ofTree tree
  | none => empty

/-- The request that steps build. -/
def build (tree? : Option Value) (steps : List BuildStep) : Context :=
  steps.foldl BuildStep.apply (start tree?)

end Context

/-! ## The tree by itself -/

/-- The members of a section of a tree, for a text to be put into: the section is made when it is missing, and
made anew when it is no object. There are none when the tree is no object, or the section still is none. -/
def openSection? (inSection : String) : Value → Option Members
  | .obj root =>
    let found := (Members.get? inSection root).getD (.obj [])
    let opened := if found.obj?.isSome then found else .obj []
    opened.obj?
  | _ => none

namespace BuildStep

/-- The tree after a step, whatever kind of value it is; a property of a tree that is no object is lost. -/
def applyTree? (tree : Value) : BuildStep → Option Value
  | .fact f value => do
    let root ← tree.obj?
    let opened ← openSection? f.inSection tree
    return .obj (Members.insert f.inSection (.obj (Members.insert f.key (.str value) opened)) root)
  | .property name value =>
    match tree with
    | .obj root => some (.obj (Members.insert name value root))
    | other => some other

theorem openSection?_tree (ctx : Context) (inSection : String) :
    openSection? inSection ctx.tree = some (ctx.sectionMembers inSection) := by
  rw [Context.tree, openSection?, Context.sectionMembers]
  cases Members.get? inSection ctx.members with
  | none => rfl
  | some v => cases v <;> rfl

/-- A step on the tree of a request gives the tree of the request after that step. -/
theorem applyTree?_tree (ctx : Context) (step : BuildStep) : step.applyTree? ctx.tree = some (step.apply ctx).tree := by
  cases step with
  | fact f value =>
    have root : ctx.tree.obj? = some ctx.members := rfl
    rw [applyTree?, root, openSection?_tree, apply, ctx.withFact_eq]
    rfl
  | property name value => rfl

theorem foldlM_applyTree? (ctx : Context) (steps : List BuildStep) :
    steps.foldlM applyTree? ctx.tree = some (steps.foldl apply ctx).tree := by
  induction steps generalizing ctx with
  | nil => rfl
  | cons step steps ih =>
    rw [List.foldlM_cons, applyTree?_tree, Option.bind_eq_bind, Option.bind_some, ih, List.foldl_cons]

end BuildStep

open Expression in
/-- However a request was built, its tree is an object and every step could open the section that it wrote to. A
fact that is put in then is what its name reads and, if it can be addressed and is not empty, what its expression
reads; every other fact reads as before. -/
theorem Context.build_agrees (tree? : Option Value) (steps : List BuildStep) :
    (∃ ms, (build tree? steps).tree = .obj ms ∧
        steps.foldlM BuildStep.applyTree? (start tree?).tree = some (.obj ms)) ∧
      ∀ (f : Fact) (value : String),
        ((build tree? steps).withFact f value).fact? f = some value ∧
          (f.Addressable → value ≠ "" →
            resolveUsual (some ((build tree? steps).withFact f value).tree) f.expression = .ok (some value)) ∧
          ∀ g, g ≠ f → ((build tree? steps).withFact f value).fact? g = (build tree? steps).fact? g := by
  refine ⟨⟨_, rfl, BuildStep.foldlM_applyTree? _ steps⟩, fun f value => ⟨?_, ?_, ?_⟩⟩
  · rw [fact?_withFact, if_pos rfl]
  · exact fun addressable inhabited => f.resolveUsual_withFact addressable inhabited _
  · intro g other
    rw [fact?_withFact, if_neg other.symm]

open Expression in
/-- The section of arguments comes in as a number, is repaired, and is overwritten by a list before the argument is
put in. -/
theorem Context.build_agrees_overwritten :
    let steps : List BuildStep := [.fact (.arg "b") "1", .fact .remoteAddr "::1", .property "args" (.arr [.null])]
    let ctx := build (some (.obj [("args", .int 5)])) steps
    (Fact.arg "a b").Addressable ∧ ctx.arg? "b" = none ∧
      resolveUsual (some ((ctx.withArg "a b" "x:y").tree)) "r.args.a b" = .ok (some "x:y") ∧
      (ctx.withArg "a b" "x:y").arg? "a b" = some "x:y" ∧ (ctx.withArg "a b" "x:y").remoteAddr? = some "::1" ∧
      resolveUsual (some ((ctx.withRemoteAddr "::2").tree)) "r.variables.remote_addr" = .ok (some "::2") := by
  intro steps ctx
  have addressable : (Fact.arg "a b").Addressable := ⟨by decide, by decide⟩
  obtain ⟨-, agrees⟩ := build_agrees (some (.obj [("args", .int 5)])) steps
  obtain ⟨read, resolved, others⟩ := agrees (.arg "a b") "x:y"
  have address := others .remoteAddr (by decide)
  obtain ⟨-, moved, -⟩ := agrees .remoteAddr "::2"
  exact ⟨addressable, by decide, resolved addressable (by decide), read, address,
    moved Fact.addressable_remoteAddr (by decide)⟩

end StreamPolicy
