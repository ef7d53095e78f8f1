import StreamPolicy.Proofs.Route.Precedence

/-!
# The entries behind an outcome

Which entries an outcome stands for, read off its stage and off what it says has matched. Every
entry that the outcome of a request stands for was asked and matches the request.
-/

namespace StreamPolicy.RoutePolicy

/-- The entries that an outcome stands for. -/
inductive StandsFor (p : RoutePolicy) (ctx : Context) (q : RouteQuery) : Outcome → Entry → Prop
  /-- The first entry that proxies alone and matches. -/
  | single {e : Entry} {reason : String}
      (first : First (fun e => e.ProxiesAlone ∧ e.Matches ctx q.candidate) (p.asked ctx) e) :
      StandsFor p ctx q ⟨.proxy, .singleProxy, some e.display, reason⟩ e
  /-- All entries that proxy under the name. -/
  | group {e : Entry} {n reason : String} (member : e ∈ p.asked ctx) (joins : e.ProxiesIn n) :
      StandsFor p ctx q ⟨.proxy, .groupProxy, some n, reason⟩ e
  /-- All entries for the route, when the first of them has a label. -/
  | together {e first : Entry} {d : Decision} {label reason : String} (isFirst : First (·.Leads d) (p.asked ctx) first)
      (labelled : first.group? = some label) (member : e ∈ p.asked ctx) (leads : e.Leads d) :
      StandsFor p ctx q ⟨d, .taggedRoute, some label, reason⟩ e
  /-- The first entry for the route that matches, when the first of all has no label. -/
  | alone {e first : Entry} {d : Decision} {reason : String} (isFirst : First (·.Leads d) (p.asked ctx) first)
      (unlabelled : first.group? = none)
      (hit : First (fun e => e.Leads d ∧ e.Matches ctx q.candidate) (p.asked ctx) e) :
      StandsFor p ctx q ⟨d, .taggedRoute, some e.display, reason⟩ e

/-- Every entry that the outcome of a request stands for matches. -/
theorem matches_of_standsFor {p : RoutePolicy} {ctx : Context} {q : RouteQuery} {e : Entry}
    (stands : p.StandsFor ctx q (p.decide ctx q) e) : e.Matches ctx q.candidate := by
  have routed := routed_decide p ctx q
  generalize p.decide ctx q = outcome at stands routed
  cases stands with
  | single first =>
    obtain ⟨_, _, _, ⟨_, matched⟩, _⟩ := first
    exact matched
  | group member joins =>
    cases routed with
    | group _ _ first =>
      obtain ⟨_, _, _, _, _, together, _⟩ := first
      exact together e member joins
  | together isFirst labelled member leads =>
    cases routed with
    | tagged _ _ awards =>
      cases awards with
      | together _ _ all => exact all e member leads
      | alone isFirst' unlabelled =>
        rw [isFirst'.unique isFirst, labelled] at unlabelled
        cases unlabelled
  | alone _ _ hit =>
    obtain ⟨_, _, _, ⟨_, matched⟩, _⟩ := hit
    exact matched

end StreamPolicy.RoutePolicy
