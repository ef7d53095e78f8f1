import StreamPolicy.Command.Report
import StreamPolicy.Proofs.Route.Spelling
import StreamPolicy.Proofs.Rule.Reading

/-!
# What a check of a policy finds

A gate passes over the items of the rule lists that it cannot use. `Lost.Of` says which those are,
list by list, without the filters that the gate is built with, and `reportCheck_ofPolicy` says that a
check fails exactly when there are some, and how many it counts.
-/

namespace StreamPolicy

/-! ## Lists of which some items are lost -/

section
variable {α β : Type} {gives : α → β → Prop} {raw lost : List α} {kept : List β}

/-- Each item of a list either gives something, which is kept at its place, or gives nothing and is
lost. -/
inductive Sifts (gives : α → β → Prop) : List α → List β → List α → Prop
  | nil : Sifts gives [] [] []
  | keep {a : α} {b : β} {raw lost : List α} {kept : List β} (given : gives a b) (rest : Sifts gives raw kept lost) :
      Sifts gives (a :: raw) (b :: kept) lost
  | lose {a : α} {raw lost : List α} {kept : List β} (nothing : ∀ b, ¬ gives a b) (rest : Sifts gives raw kept lost) :
      Sifts gives (a :: raw) kept (a :: lost)

theorem Sifts.length_eq (sifts : Sifts gives raw kept lost) : raw.length = kept.length + lost.length := by
  induction sifts with
  | nil => rfl
  | keep _ _ ih => rw [List.length_cons, List.length_cons, ih]; omega
  | lose _ _ ih => rw [List.length_cons, List.length_cons, ih]; omega

theorem Sifts.lost_eq_nil_iff (sifts : Sifts gives raw kept lost) : lost = [] ↔ ∀ a ∈ raw, ∃ b, gives a b := by
  induction sifts with
  | nil => simp
  | keep given _ ih =>
    rw [List.forall_mem_cons, ← ih]
    exact (and_iff_right ⟨_, given⟩).symm
  | lose nothing _ _ =>
    refine iff_of_false (List.cons_ne_nil _ _) fun all => ?_
    obtain ⟨b, given⟩ := all _ List.mem_cons_self
    exact nothing b given

/-- A filter that maps loses the items that it maps to nothing. -/
theorem exists_sifts_filterMap {f : α → Option β} (reads : ∀ a b, f a = some b ↔ gives a b) (raw : List α) :
    ∃ lost, Sifts gives raw (raw.filterMap f) lost := by
  induction raw with
  | nil => exact ⟨[], .nil⟩
  | cons a rest ih =>
    obtain ⟨lost, sifts⟩ := ih
    cases found : f a with
    | some b =>
      rw [List.filterMap_cons_some found]
      exact ⟨lost, .keep ((reads a b).mp found) sifts⟩
    | none =>
      rw [List.filterMap_cons_none found]
      exact ⟨a :: lost, .lose (fun b given => by rw [(reads a b).mpr given] at found; cases found) sifts⟩

end

/-! ## What an item of a rule list gives -/

namespace Field

/-- An item that writes an entry: a list of fields that reading accepts. -/
def Writes (custom : List String) (f : Field) (e : Entry) : Prop :=
  ∃ fields, f = .list fields ∧ Entry.read custom fields = .ok e

/-- An item that writes a rule for a route. A bare rule with further fields is for the route that the
first of them names; every other entry stays as it was written. -/
inductive Routes (custom : List String) (f : Field) : Entry → Prop
  | written {e : Entry} (writes : f.Writes custom e) (settled : ∀ r, e = .bare r → r.extra = []) : Routes custom f e
  | targeted {r : Rule} {tag : String} {route : Decision} {rest : List Field} (writes : f.Writes custom (.bare r))
      (target : r.extra = .str tag :: rest) (tagged : Decision.Tagged custom tag route) :
      Routes custom f (.tagged route none r)

end Field

/-- What stands behind the pattern of a bare rule names a route. -/
def Entry.NamesTarget (custom : List String) (e : Entry) : Prop :=
  ∀ r target rest, e = .bare r → r.extra = target :: rest →
    ∃ tag, target = .str tag ∧ (tag ∈ Decision.builtinTags ∨ tag ∈ custom)

section
variable {custom : List String}

theorem Decision.exists_tagged_iff {tag : String} :
    (∃ route, Tagged custom tag route) ↔ tag ∈ builtinTags ∨ tag ∈ custom := by
  constructor
  · rintro ⟨route, tagged⟩
    cases tagged with
    | custom _ listed => exact .inr listed
    | _ => exact .inl (by decide)
  · intro known
    by_cases builtin : tag ∈ builtinTags
    · obtain ⟨-, tagged⟩ := tagged_of_target (.inl builtin)
      exact tagged
    · exact ⟨_, .custom builtin (known.resolve_left builtin)⟩

namespace Entry

/-- Only a bare rule with further fields waits for a route. -/
theorem settled_or_followed (e : Entry) :
    (∀ r, e = .bare r → r.extra = []) ∨ ∃ r target rest, e = .bare r ∧ r.extra = target :: rest := by
  cases e with
  | bare r =>
    cases extra : r.extra with
    | nil => exact .inl fun r' same => by cases same; exact extra
    | cons target rest => exact .inr ⟨r, target, rest, rfl, extra⟩
  | _ => exact .inl fun r same => by cases same

theorem withRoute?_eq_self {e : Entry} (settled : ∀ r, e = .bare r → r.extra = []) : e.withRoute? custom = some e := by
  cases e with
  | bare r => simp only [withRoute?, settled r rfl]
  | _ => rfl

theorem withRoute?_bare_eq_some_iff {r : Rule} {target : Field} {rest : List Field} (extra : r.extra = target :: rest)
    {e : Entry} : (bare r).withRoute? custom = some e ↔
      ∃ tag route, target = .str tag ∧ Decision.Tagged custom tag route ∧ e = .tagged route none r := by
  simp only [withRoute?, extra, Option.map_eq_some_iff, Option.bind_eq_some_iff, Decision.ofTag?_eq_some_iff]
  constructor
  · rintro ⟨route, ⟨tag, text, tagged⟩, rfl⟩
    cases target with
    | str s => cases text; exact ⟨tag, route, rfl, tagged, rfl⟩
    | _ => cases text
  · rintro ⟨tag, route, rfl, tagged, rfl⟩
    exact ⟨route, ⟨tag, rfl, tagged⟩, rfl⟩

theorem routing?_eq_some_iff {f : Field} {e : Entry} : routing? custom f = some e ↔ f.Routes custom e := by
  have writes (e₀ : Entry) : ofField? custom f = some e₀ ↔ f.Writes custom e₀ := ofField?_eq_some_iff
  rw [routing?, Option.bind_eq_some_iff]
  simp only [writes]
  constructor
  · rintro ⟨e₀, written, kept⟩
    rcases e₀.settled_or_followed with settled | ⟨r, target, rest, rfl, extra⟩
    · rw [withRoute?_eq_self settled] at kept
      cases kept
      exact .written written settled
    · obtain ⟨tag, route, rfl, tagged, rfl⟩ := (withRoute?_bare_eq_some_iff extra).mp kept
      exact .targeted written extra tagged
  · rintro (⟨written, settled⟩ | ⟨written, target, tagged⟩)
    · exact ⟨_, written, withRoute?_eq_self settled⟩
    · exact ⟨_, written, (withRoute?_bare_eq_some_iff target).mpr ⟨_, _, rfl, tagged, rfl⟩⟩

end Entry

/-- An item gives an entry that routes requests exactly when it writes one, and a route stands behind
the pattern if anything does. -/
theorem Field.exists_routes_iff {f : Field} :
    (∃ e, f.Routes custom e) ↔ ∃ e, f.Writes custom e ∧ e.NamesTarget custom := by
  constructor
  · rintro ⟨e, ⟨written, settled⟩ | ⟨written, target, tagged⟩⟩
    · refine ⟨e, written, fun r target rest same extra => ?_⟩
      rw [settled r same] at extra
      cases extra
    · refine ⟨_, written, fun r' target' rest' same extra => ?_⟩
      cases same
      rw [target] at extra
      cases extra
      exact ⟨_, rfl, Decision.exists_tagged_iff.mp ⟨_, tagged⟩⟩
  · rintro ⟨e, written, names⟩
    rcases e.settled_or_followed with settled | ⟨r, target, rest, rfl, extra⟩
    · exact ⟨e, .written written settled⟩
    · obtain ⟨tag, rfl, known⟩ := names r target rest rfl extra
      obtain ⟨route, tagged⟩ := Decision.exists_tagged_iff.mpr known
      exact ⟨_, .targeted written extra tagged⟩

end

/-! ## What a gate loses -/

/-- Every item of the rule lists of a policy is one that its gate can use. -/
structure Policy.WellWritten (p : Policy) : Prop where
  routes : ∀ f ∈ p.routeRules, ∃ e, f.Writes p.customRoutes e ∧ e.NamesTarget p.customRoutes
  clientLinks : ∀ f ∈ p.clientLinkRules, ∃ e, f.Writes p.customRoutes e
  hidden : ∀ f ∈ p.hideRules, ∃ e, f.Writes p.customRoutes e
  mappings : ∀ f ∈ p.mappings, ∃ m, Mapping.ofField? f = some m

/-- Items of the rule lists of a policy. -/
structure Lost where
  /-- Rules that route requests. -/
  routes : List Field
  /-- Rules that name clients which fetch from the storage backend. -/
  clientLinks : List Field
  /-- Rules that hide items. -/
  hidden : List Field
  /-- Changes of paths. -/
  mappings : List Field

namespace Lost

/-- How many items there are in the four lists. -/
def count (l : Lost) : Nat :=
  l.routes.length + l.clientLinks.length + l.hidden.length + l.mappings.length

/-- The items that the gate of a policy does not use: every other item stands in the gate, at its place,
as what it gives. -/
structure Of (p : Policy) (l : Lost) : Prop where
  routes : Sifts (Field.Routes p.customRoutes) p.routeRules (Gate.ofPolicy p).route.entries l.routes
  clientLinks : Sifts (Field.Writes p.customRoutes) p.clientLinkRules (Gate.ofPolicy p).clientLinks l.clientLinks
  hidden : Sifts (Field.Writes p.customRoutes) p.hideRules (Gate.ofPolicy p).hidden l.hidden
  mappings : Sifts (fun f m => Mapping.ofField? f = some m) p.mappings (Gate.ofPolicy p).mappings l.mappings

theorem exists_of (p : Policy) : ∃ lost : Lost, lost.Of p := by
  have entries (raw : List Field) :
      ∃ lost, Sifts (Field.Writes p.customRoutes) raw (readEntries p.customRoutes raw) lost :=
    exists_sifts_filterMap (fun _ _ => Entry.ofField?_eq_some_iff) raw
  have routed : (Gate.ofPolicy p).route.entries = p.routeRules.filterMap (Entry.routing? p.customRoutes) :=
    entries_ofRaw p.customRoutes p.routeRules p.mounts
  obtain ⟨routes, ofRoutes⟩ := exists_sifts_filterMap (fun _ _ => Entry.routing?_eq_some_iff) p.routeRules
  obtain ⟨clientLinks, ofClientLinks⟩ := entries p.clientLinkRules
  obtain ⟨hidden, ofHidden⟩ := entries p.hideRules
  obtain ⟨mappings, ofMappings⟩ := exists_sifts_filterMap (fun _ _ => Iff.rfl) p.mappings
  exact ⟨⟨routes, clientLinks, hidden, mappings⟩, routed ▸ ofRoutes, ofClientLinks, ofHidden, ofMappings⟩

variable {p : Policy} {lost : Lost}

theorem Of.count_eq_zero_iff (of : lost.Of p) : lost.count = 0 ↔ p.WellWritten := by
  have empty : lost.count = 0 ↔
      lost.routes = [] ∧ lost.clientLinks = [] ∧ lost.hidden = [] ∧ lost.mappings = [] := by
    simp [count, and_assoc]
  rw [empty, of.routes.lost_eq_nil_iff, of.clientLinks.lost_eq_nil_iff, of.hidden.lost_eq_nil_iff,
    of.mappings.lost_eq_nil_iff]
  simp only [Field.exists_routes_iff]
  exact ⟨fun ⟨routes, links, hidden, mappings⟩ => ⟨routes, links, hidden, mappings⟩,
    fun ⟨routes, links, hidden, mappings⟩ => ⟨routes, links, hidden, mappings⟩⟩

end Lost

namespace Command

open StreamPolicy.Json

variable {p : Policy} {lost : Lost}

/-- A list that loses some items is shorter by as many, so that the differences add up. -/
theorem skippedCount_ofPolicy (of : lost.Of p) : skippedCount (.ofPolicy p) = lost.count := by
  have routes := of.routes.length_eq
  have links := of.clientLinks.length_eq
  have hidden := of.hidden.length_eq
  have mappings := of.mappings.length_eq
  simp only [skippedCount, ruleCounts, List.map_cons, List.map_nil, List.foldr_cons, List.foldr_nil, Lost.count]
  simp only [show (Gate.ofPolicy p).policy = p from rfl]
  omega

/-- What a check prints of a policy of which every item is used. -/
def wholeCounts (p : Policy) (policyFile : String) : Value :=
  .object [("policy_file", .str policyFile), ("route_rule", .nat p.routeRules.length),
    ("client_link_rule", .nat p.clientLinkRules.length), ("item_hidden_rule", .nat p.hideRules.length),
    ("path_mapping", .nat p.mappings.length)]

theorem counts_of_whole (of : lost.Of p) (whole : lost.count = 0) (policyFile : String) :
    (Value.object (("policy_file", .str policyFile) ::
      (ruleCounts (.ofPolicy p)).map fun (key, _, kept) => (key, .nat kept))) = wholeCounts p policyFile := by
  have routes := of.routes.length_eq
  have links := of.clientLinks.length_eq
  have hidden := of.hidden.length_eq
  have mappings := of.mappings.length_eq
  rw [Lost.count] at whole
  rw [wholeCounts, show p.routeRules.length = (Gate.ofPolicy p).route.entries.length by omega,
    show p.clientLinkRules.length = (Gate.ofPolicy p).clientLinks.length by omega,
    show p.hideRules.length = (Gate.ofPolicy p).hidden.length by omega,
    show p.mappings.length = (Gate.ofPolicy p).mappings.length by omega]
  rfl

theorem reportCheck_of_whole (of : lost.Of p) (whole : lost.count = 0) (policyFile : String) :
    reportCheck (.ofPolicy p) policyFile = .ok ⟨(wholeCounts p policyFile).pretty, []⟩ := by
  rw [reportCheck, skippedCount_ofPolicy of, whole, if_neg (Nat.lt_irrefl 0), counts_of_whole of whole]

theorem reportCheck_of_lost (of : lost.Of p) (some : lost.count ≠ 0) (policyFile : String) :
    reportCheck (.ofPolicy p) policyFile = .error (.malformedEntries policyFile lost.count) := by
  rw [reportCheck, skippedCount_ofPolicy of, if_pos (Nat.pos_of_ne_zero some)]

/-- A check of a policy fails exactly when some item of its rule lists is lost to the gate, and says
how many are; else it prints how long the lists are. -/
theorem reportCheck_ofPolicy (p : Policy) (policyFile : String) :
    ∃ lost : Lost, lost.Of p ∧
      ((∃ report, reportCheck (.ofPolicy p) policyFile = .ok report) ↔ p.WellWritten) ∧
      (∀ report, reportCheck (.ofPolicy p) policyFile = .ok report →
        report = ⟨(wholeCounts p policyFile).pretty, []⟩) ∧
      ∀ e, reportCheck (.ofPolicy p) policyFile = .error e →
        e.message = policyFile ++ ": " ++ Text.ofNat lost.count ++ " malformed entries were skipped" := by
  obtain ⟨lost, of⟩ := Lost.exists_of p
  refine ⟨lost, of, ?_⟩
  by_cases whole : lost.count = 0
  · rw [reportCheck_of_whole of whole policyFile]
    refine ⟨iff_of_true ⟨_, rfl⟩ (of.count_eq_zero_iff.mp whole), ?_, ?_⟩
    · intro report done
      exact (Except.ok.inj done).symm
    · intro e failed
      cases failed
  · rw [reportCheck_of_lost of whole policyFile]
    refine ⟨iff_of_false ?_ fun written => whole (of.count_eq_zero_iff.mpr written), ?_, ?_⟩
    · rintro ⟨report, done⟩
      cases done
    · intro report done
      cases done
    · intro e failed
      obtain rfl := Except.error.inj failed
      rfl

end Command

end StreamPolicy
