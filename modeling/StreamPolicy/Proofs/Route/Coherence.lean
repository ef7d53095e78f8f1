import StreamPolicy.Audit.Entry
import StreamPolicy.Gate
import StreamPolicy.Proofs.Policy.CustomRoutes
import StreamPolicy.Proofs.Route.Precedence
import StreamPolicy.Proofs.Rule.Reading

/-!
# Outcomes that hold together

The stage of an outcome says what it may decide and whether something has matched, and a decision for
another route than the proxy is the route of some entry. In a valid policy no custom route is called
like a route that every policy knows, so that the text of a decision in the audit log names one
decision only. `Gate.decide_coherent` puts this together for all requests.
-/

namespace StreamPolicy

open StreamPolicy.Audit (Verdict)

/-! ## Where the routes of entries come from -/

theorem Decision.Tagged.tag_eq {custom : List String} {tag : String} {d : Decision} (tagged : Tagged custom tag d) :
    d.tag = tag := by
  cases tagged <;> rfl

/-- A route is named by a tag of a policy: its own. -/
def Decision.Named (custom : List String) (d : Decision) : Prop :=
  Tagged custom d.tag d

theorem Decision.Tagged.named {custom : List String} {tag : String} {d : Decision} (tagged : Tagged custom tag d) :
    d.Named custom := by
  rwa [Named, tagged.tag_eq]

theorem Entry.Spelled.named {custom : List String} {fields : List Field} {e : Entry}
    (spelled : Entry.Spelled custom fields e) {d : Decision} (route : e.route? = some d) : d.Named custom := by
  cases spelled with
  | taggedAlone _ tagged _ | taggedTogether _ tagged _ =>
    cases route
    exact tagged.named
  | bare | single | grouped => cases route

/-- A route that an entry is given is named by the field behind its pattern. -/
theorem Entry.named_of_withRoute? {custom : List String} {e e' : Entry} (kept : e.withRoute? custom = some e')
    {d : Decision} (route : e'.route? = some d) : e.route? = some d ∨ d.Named custom := by
  cases e with
  | bare r =>
    cases extra : r.extra with
    | nil =>
      simp only [withRoute?, extra, Option.some.injEq] at kept
      subst kept
      cases route
    | cons target rest =>
      simp only [withRoute?, extra, Option.map_eq_some_iff] at kept
      obtain ⟨d', names, rfl⟩ := kept
      cases route
      obtain ⟨tag, -, tagged⟩ := Option.bind_eq_some_iff.mp names
      exact .inr (Decision.ofTag?_eq_some_iff.mp tagged).named
  | _ =>
    cases kept
    exact .inl route

/-- An entry that routes requests has a route that the policy names. -/
theorem named_of_mem_resolveRoutes {custom : List String} {raw : List Field} {e : Entry}
    (member : e ∈ resolveRoutes custom (readEntries custom raw)) {d : Decision} (route : e.route? = some d) :
    d.Named custom := by
  obtain ⟨e₀, listed, kept⟩ := List.mem_filterMap.mp member
  obtain ⟨fields, -, spelled⟩ := exists_spelled_of_mem_readEntries listed
  rcases Entry.named_of_withRoute? kept route with own | named
  · exact spelled.named own
  · exact named

/-! ## What a stage decides -/

namespace RoutePolicy

variable {p : RoutePolicy} {ctx : Context} {q : RouteQuery} {o : Outcome}

theorem mem_of_mem_asked {e : Entry} (member : e ∈ p.asked ctx) : e ∈ p.entries :=
  List.mem_of_mem_filter member

theorem Routed.decision_eq_proxy (routed : Routed p ctx q o)
    (stage : o.stage = .mountPath ∨ o.stage = .singleProxy ∨ o.stage = .groupProxy) : o.decision = .proxy := by
  cases routed with
  | outside | single | group => rfl
  | tagged | routeless | unmatched => simp at stage

theorem Routed.exists_route (routed : Routed p ctx q o) (stage : o.stage = .taggedRoute) :
    o.decision ≠ .proxy ∧ ∃ e ∈ p.entries, e.route? = some o.decision := by
  cases routed with
  | tagged _ first _ =>
    obtain ⟨before, e, after, split, leads, -⟩ := first
    have asked : e ∈ p.asked ctx := by simp [split]
    cases leads with
    | tagged label r other => exact ⟨other, _, mem_of_mem_asked asked, rfl⟩
  | outside | single | group | routeless | unmatched => cases stage

theorem Routed.decision_eq_redirect (routed : Routed p ctx q o) (stage : o.stage = .fallback) :
    o.decision = .redirect := by
  cases routed with
  | routeless | unmatched => rfl
  | outside | single | group | tagged => cases stage

theorem Routed.matched_isSome_iff (routed : Routed p ctx q o) :
    o.matched.isSome = true ↔ o.stage = .singleProxy ∨ o.stage = .groupProxy ∨ o.stage = .taggedRoute := by
  cases routed <;> simp

/-- Only a tagged entry decides for a custom route. -/
theorem Routed.stage_eq_of_custom (routed : Routed p ctx q o) {name : String} (custom : o.decision = .custom name) :
    o.stage = .taggedRoute := by
  cases routed with
  | tagged => rfl
  | outside | single | group | routeless | unmatched => cases custom

end RoutePolicy

/-! ## Outcomes of a gate -/

/-- What an outcome of the gate of a policy says goes together. -/
structure Outcome.Coherent (p : Policy) (o : Outcome) : Prop where
  proxied : o.stage = .mountPath ∨ o.stage = .singleProxy ∨ o.stage = .groupProxy → o.decision = .proxy
  routed : o.stage = .taggedRoute →
    o.decision ≠ .proxy ∧ ∃ e ∈ (Gate.ofPolicy p).route.entries, e.route? = some o.decision
  unmatched : o.stage = .fallback → o.decision = .redirect
  matched : o.matched.isSome = true ↔ o.stage = .singleProxy ∨ o.stage = .groupProxy ∨ o.stage = .taggedRoute
  declared : ∀ name, o.decision = .custom name →
    name ∈ p.customRoutes ∧ ¬ Text.isBlankText name = true ∧ name ∉ Decision.builtinTags

theorem Decision.tag_mem_builtinTags_or_custom (d : Decision) : d.tag ∈ builtinTags ∨ d = .custom d.tag := by
  cases d with
  | custom name => exact .inr rfl
  | _ => exact .inl (by decide)

/-- A decision for a custom route does not have the tag of a route that every policy knows. -/
def Decision.IsProper (d : Decision) : Prop :=
  d.tag ∈ builtinTags → ∀ name, d ≠ .custom name

theorem Outcome.Coherent.isProper {p : Policy} {o : Outcome} (coherent : o.Coherent p) : o.decision.IsProper := by
  intro builtin name custom
  obtain ⟨-, -, own⟩ := coherent.declared name custom
  rw [custom] at builtin
  exact own builtin

/-- The tags of proper decisions are apart. -/
theorem Decision.eq_of_tag_eq {d d' : Decision} (proper : d.IsProper) (proper' : d'.IsProper) (same : d.tag = d'.tag) :
    d = d' := by
  rcases d.tag_mem_builtinTags_or_custom with builtin | custom
  · have builtin' : d'.tag ∈ builtinTags := same ▸ builtin
    have own := proper builtin
    have own' := proper' builtin'
    cases d with
    | custom name => exact absurd rfl (own name)
    | _ =>
      cases d' with
      | custom name' => exact absurd rfl (own' name')
      | _ => revert same; decide
  · rcases d'.tag_mem_builtinTags_or_custom with builtin' | custom'
    · have builtin : d.tag ∈ builtinTags := same ▸ builtin'
      exact absurd custom (proper builtin d.tag)
    · rw [custom, custom', same]

namespace Gate

variable {p p' : Policy}

theorem coherent_decide (valid : p.error? = none) (ctx : Context) (q : RouteQuery) :
    ((ofPolicy p).decide ctx q).Coherent p := by
  have routed := RoutePolicy.routed_decide (ofPolicy p).route ctx q
  refine ⟨routed.decision_eq_proxy, routed.exists_route, routed.decision_eq_redirect, routed.matched_isSome_iff, ?_⟩
  intro name custom
  obtain ⟨-, e, member, route⟩ := routed.exists_route (routed.stage_eq_of_custom custom)
  have named := named_of_mem_resolveRoutes member route
  rw [show RoutePolicy.decide _ ctx q = (ofPolicy p).decide ctx q from rfl, custom] at named
  cases named with
  | custom own listed => exact ⟨listed, (Policy.error?_eq_none_iff.mp valid).named name listed, own⟩

/-- In valid policies every outcome holds together, and the text of a decision in the audit log names
one decision only. -/
theorem decide_coherent (valid : p.error? = none) (valid' : p'.error? = none) (ctx ctx' : Context)
    (q q' : RouteQuery) :
    ((ofPolicy p).decide ctx q).Coherent p ∧
      ((Verdict.ofOutcome ((ofPolicy p).decide ctx q)).decision =
          (Verdict.ofOutcome ((ofPolicy p').decide ctx' q')).decision →
        ((ofPolicy p).decide ctx q).decision = ((ofPolicy p').decide ctx' q').decision) := by
  have coherent := coherent_decide valid ctx q
  have coherent' := coherent_decide valid' ctx' q'
  exact ⟨coherent, Decision.eq_of_tag_eq coherent.isProper coherent'.isProper⟩

/-- A policy that sends series to a custom route, by a rule that starts with its name. -/
def transcodingSeries : Policy :=
  { Policy.ofVersion "1.0" with
    customRoutes := ["transcode"]
    routeRules := [.list [.str "transcode", .str "filePath", .str "startsWith", .str "/tv"]] }

/-- The same by a bare rule whose route stands behind the pattern. -/
def transcodingSeriesBare : Policy :=
  { transcodingSeries with
    routeRules := [.list [.str "startsWith", .str "/tv", .str "transcode"]] }

theorem decide_coherent_transcode :
    transcodingSeries.error? = none ∧ transcodingSeriesBare.error? = none ∧
      ((ofPolicy transcodingSeries).decide .empty ⟨"/tv/a", false, false⟩).Coherent transcodingSeries ∧
      ((ofPolicy transcodingSeries).decide .empty ⟨"/tv/a", false, false⟩).decision =
        ((ofPolicy transcodingSeriesBare).decide .empty ⟨"/tv/b", true, false⟩).decision ∧
      ((ofPolicy transcodingSeries).decide .empty ⟨"/tv/a", false, false⟩).decision = .custom "transcode" := by
  have valid : transcodingSeries.error? = none := by decide
  have valid' : transcodingSeriesBare.error? = none := by decide
  obtain ⟨coherent, apart⟩ :=
    decide_coherent valid valid' .empty .empty ⟨"/tv/a", false, false⟩ ⟨"/tv/b", true, false⟩
  exact ⟨valid, valid', coherent, apart (by decide +kernel), by decide +kernel⟩

end Gate

end StreamPolicy
