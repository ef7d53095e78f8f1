import StreamPolicy.Policy.Validation
import StreamPolicy.Proofs.Rule.Grammar
import StreamPolicy.Proofs.Rule.Modes

/-!
# Custom routes as tags

A valid policy gives its custom routes names of their own, apart from each other and from the tags
that every policy knows. A rule that starts with such a name is tagged with it unless the name
writes a mode: a first field is tried as a mode before it is tried as a tag, and the check of a policy
does not look for modes.
-/

namespace StreamPolicy

/-! ## Valid policies -/

namespace Policy

/-- What a policy must be to be used. -/
structure Valid (p : Policy) : Prop where
  version : p.version = supportedVersion
  named : ∀ name ∈ p.customRoutes, ¬ Text.isBlankText name = true
  own : ∀ name ∈ p.customRoutes, name ∉ Decision.builtinTags
  distinct : p.customRoutes.Nodup
  keyed : p.storage.signEnabled = true → p.storage.signSecret ≠ ""

theorem routeError?_eq_none_iff {seen names : List String} :
    routeError? seen names = none ↔
      (∀ name ∈ names, ¬ Text.isBlankText name = true ∧ name ∉ Decision.builtinTags ∧ name ∉ seen) ∧
        names.Nodup := by
  induction names generalizing seen with
  | nil => simp [routeError?]
  | cons first rest ih =>
    rw [routeError?, List.forall_mem_cons, List.nodup_cons]
    by_cases blank : Text.isBlankText first = true
    · simp [blank]
    by_cases builtin : first ∈ Decision.builtinTags
    · simp [blank, builtin]
    by_cases old : first ∈ seen
    · simp [blank, builtin, old]
    rw [if_neg blank, if_neg builtin, if_neg old, ih]
    constructor
    · rintro ⟨later, nodup⟩
      have new : first ∉ rest := fun member => (later first member).2.2 List.mem_cons_self
      refine ⟨⟨⟨blank, builtin, old⟩, fun name member => ?_⟩, new, nodup⟩
      obtain ⟨filled, own, unseen⟩ := later name member
      exact ⟨filled, own, fun known => unseen (List.mem_cons_of_mem first known)⟩
    · rintro ⟨⟨_, later⟩, new, nodup⟩
      refine ⟨fun name member => ?_, nodup⟩
      obtain ⟨filled, own, unseen⟩ := later name member
      have other : name ≠ first := fun same => new (same ▸ member)
      exact ⟨filled, own, by simp [other, unseen]⟩

/-- Nothing is wrong with a policy exactly when it is valid. -/
theorem error?_eq_none_iff {p : Policy} : p.error? = none ↔ p.Valid := by
  have keyed : ¬ (p.storage.signEnabled && p.storage.signSecret = "") = true ↔
      (p.storage.signEnabled = true → p.storage.signSecret ≠ "") := by
    simp
  rw [error?]
  by_cases version : p.version = supportedVersion
  · rw [if_neg (not_not.mpr version)]
    constructor
    · intro fine
      split at fine
      next => cases fine
      next routes =>
        obtain ⟨names, distinct⟩ := routeError?_eq_none_iff.mp routes
        have key : ¬ (p.storage.signEnabled && p.storage.signSecret = "") = true := by
          intro missing
          rw [if_pos missing] at fine
          cases fine
        exact ⟨version, fun name member => (names name member).1, fun name member => (names name member).2.1,
          distinct, keyed.mp key⟩
    · intro valid
      have names : ∀ name ∈ p.customRoutes,
          ¬ Text.isBlankText name = true ∧ name ∉ Decision.builtinTags ∧ name ∉ [] := fun name member =>
        ⟨valid.named name member, valid.own name member, List.not_mem_nil⟩
      rw [routeError?_eq_none_iff.mpr ⟨names, valid.distinct⟩]
      exact if_neg (keyed.mpr valid.keyed)
  · rw [if_pos version]
    exact iff_of_false (Option.some_ne_none _) fun valid => version valid.version

end Policy

/-! ## Names that write a mode -/

/-- The part of a text in front of its first colon. -/
def MatchMode.kindPart (token : String) : String :=
  String.ofList (token.toList.takeWhile (· ≠ ':'))

/-- A text writes a mode when the part in front of its first colon is the name of a kind; what
follows the colon may be anything. -/
theorem MatchMode.ofText?_isSome_iff_kindPart {token : String} :
    (MatchMode.ofText? token).isSome = true ↔ ∃ kind : MatchKind, MatchMode.kindPart token = kind.name := by
  have named (name : String) : (MatchKind.ofName? name).isSome = true ↔ ∃ kind : MatchKind, name = kind.name := by
    rw [Option.isSome_iff_exists]
    exact exists_congr fun kind => MatchKind.ofName?_eq_some_iff
  rw [← named, MatchMode.ofText?, Text.splitOnce?, kindPart]
  cases parts : Text.cut? [':'] token.toList with
  | some pair =>
    have front : token.toList = pair.1 ++ ':' :: pair.2 := by simpa using Text.eq_of_cut? parts
    rw [front, Text.takeWhile_ne_append_cons (Text.not_mem_of_cut? parts)]
    simp
  | none =>
    rw [Text.takeWhile_ne_of_not_mem (Text.cut?_singleton_eq_none_iff.mp parts), String.ofList_toList]
    simp

/-! ## Rules that start with the name of a custom route -/

namespace Entry

/-- The rule that a tag, a source, a mode and a text are meant to write. -/
def taggedRule (name source : String) (kind : Field) (pattern : String) : Entry :=
  .tagged (.custom name) none
    ⟨.ofText source, .ofField kind, .one (Needle.compile pattern (ModeToken.ofField kind).kind?), []⟩

theorem spelled_taggedRule_iff {custom : List String} {name : String} (own : name ∉ Decision.builtinTags)
    (listed : name ∈ custom) {source : String} {kind : Field} {pattern : String} :
    Spelled custom [.str name, .str source, kind, .str pattern] (taggedRule name source kind pattern) ↔
      ¬ (Field.str name).OpensBare := by
  constructor
  · intro spelled
    cases spelled with
    | taggedAlone noMode _ _ => exact noMode
  · intro noMode
    exact .taggedAlone noMode (.custom own listed) (.intro (.one (.str pattern)))

/-- In a valid policy four fields that start with the name of a custom route, go on with a source and
end with a text write a rule for that route, exactly when the part of the name in front of its first
colon is not the name of a kind of comparison. -/
theorem read_customRoute_iff {p : Policy} {name : String} (valid : p.error? = none) (listed : name ∈ p.customRoutes)
    (source : String) (kind : Field) (pattern : String) :
    read p.customRoutes [.str name, .str source, kind, .str pattern] = .ok (taggedRule name source kind pattern) ↔
      ∀ kind : MatchKind, MatchMode.kindPart name ≠ kind.name := by
  have own : name ∉ Decision.builtinTags := (Policy.error?_eq_none_iff.mp valid).own name listed
  rw [read_eq_ok_iff, spelled_taggedRule_iff own listed, ← MatchMode.ofText?_isSome_iff,
    MatchMode.ofText?_isSome_iff_kindPart, not_exists]

/-- A policy whose only custom route has this name. -/
def routedTo (name : String) : Policy :=
  { Policy.ofVersion "1.0" with customRoutes := [name] }

theorem read_customRoute_iff_colon :
    (routedTo "lan:match").error? = none ∧ "lan:match" ∈ (routedTo "lan:match").customRoutes ∧
      (read (routedTo "lan:match").customRoutes [.str "lan:match", .str "filePath", .int 0, .str "/a"] =
          .ok (taggedRule "lan:match" "filePath" (.int 0) "/a") ↔
        ∀ kind : MatchKind, MatchMode.kindPart "lan:match" ≠ kind.name) :=
  ⟨by decide, by decide, read_customRoute_iff (by decide) (by decide) "filePath" (.int 0) "/a"⟩

/-- A policy may name a route after a kind of comparison, and a rule that starts with this name is a
bare one. -/
theorem not_read_customRoute_match :
    (routedTo "match").error? = none ∧ "match" ∈ (routedTo "match").customRoutes ∧
      ∀ route group r, read (routedTo "match").customRoutes
        [.str "match", .str "filePath", .str "startsWith", .str "/a"] ≠ .ok (.tagged route group r) := by
  have written : MatchMode.ofField (.str "match") = .ok (.plain .regex) := by decide
  have mode : (Field.str "match").OpensBare := .mode written
  refine ⟨by decide, by decide, fun route group r tagged => ?_⟩
  rw [read_cons_of_opens mode, map_eq_ok_iff] at tagged
  obtain ⟨_, _, other⟩ := tagged
  cases other

end Entry

end StreamPolicy
