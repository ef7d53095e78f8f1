import StreamPolicy.Proofs.Route.Precedence

/-!
# Storage links and files

Whether the candidate is a storage link matters to the mounts alone. A storage link is not sent through the
other routes when a scan finds no entry that has one, and the scan finds none exactly when there is no group
of entries to search; so a file that may not be proxied for its place takes the same route, and only the
words for a request that nothing matched tell the two apart.
-/

namespace StreamPolicy

/-- Two outcomes with nothing between them but the words for why. -/
structure Outcome.SameButReason (o o' : Outcome) : Prop where
  decision : o.decision = o'.decision
  stage : o.stage = o'.stage
  matched : o.matched = o'.matched

theorem groupBy_eq_nil_iff {α κ : Type} [DecidableEq κ] {key : α → Option κ} {items : List α} :
    groupBy key items = [] ↔ ∀ item ∈ items, key item = none := by
  rw [groupBy_eq, List.map_eq_nil_iff, List.eq_nil_iff_forall_not_mem]
  simp only [mem_keysOf, not_exists, not_and]
  constructor
  · intro unlisted item member
    exact Option.eq_none_iff_forall_ne_some.mpr fun k => unlisted k item member
  · intro keyless k item member keyed
    rw [keyless item member] at keyed
    cases keyed

namespace RoutePolicy

variable {ctx : Context} {entries : List Entry} {candidate : String}

/-- The scan for other routes and their groups agree on whether there is one. -/
theorem hasOtherRoutes_eq_false_iff_groupBy :
    hasOtherRoutes entries = false ↔ groupBy Entry.otherRoute? entries = [] := by
  rw [hasOtherRoutes_eq, groupBy_eq_nil_iff, List.any_eq_false]
  simp only [Bool.not_eq_true, Option.isSome_eq_false_iff, Option.isNone_iff_eq_none]

/-- A stage that decides something never says that nothing matched. -/
theorem stage_ne_fallback {o : Outcome}
    (decided : (singleProxy? ctx entries candidate).or ((groupProxy? ctx entries candidate).or
      (taggedRoute? ctx entries candidate)) = some o) : o.stage ≠ .fallback := by
  rcases Option.or_eq_some_iff.mp decided with single | ⟨-, later⟩
  · obtain ⟨e, -, rfl⟩ := singleProxy?_eq_some_iff.mp single
    exact Stage.noConfusion
  rcases Option.or_eq_some_iff.mp later with group | ⟨-, tagged⟩
  · obtain ⟨n, -, rfl⟩ := groupProxy?_eq_some_iff.mp group
    exact Stage.noConfusion
  · obtain ⟨d, matched, reason, -, -, rfl⟩ := taggedRoute?_eq_some_iff.mp tagged
    exact Stage.noConfusion

theorem fallback_link (entries : List Entry) (candidate : String) (bypass : Bool) :
    fallback entries ⟨candidate, true, bypass⟩ =
      if hasOtherRoutes entries then .fallback "no rule matched"
      else .fallback "storage link with no route rules" := by
  rw [fallback, hasOtherRoutes_eq]
  cases entries.any fun e => e.otherRoute?.isSome <;> rfl

/-- A storage link and a file that may not be proxied for its place get one outcome, or nothing matched either of them
and there was no other route to try. -/
theorem decide_link_or (p : RoutePolicy) (ctx : Context) (candidate : String) (bypass : Bool) :
    (p.decide ctx ⟨candidate, true, bypass⟩ = p.decide ctx ⟨candidate, false, false⟩ ∧
        ¬ ((p.decide ctx ⟨candidate, false, false⟩).stage = .fallback ∧ hasOtherRoutes (p.active ctx) = false)) ∨
      (p.decide ctx ⟨candidate, true, bypass⟩ = .fallback "storage link with no route rules" ∧
        p.decide ctx ⟨candidate, false, false⟩ = .fallback "no rule matched" ∧
        hasOtherRoutes (p.active ctx) = false) := by
  have link : ¬ p.Outside ⟨candidate, true, bypass⟩ := fun outside => Bool.noConfusion outside.1
  have file : ¬ p.Outside ⟨candidate, false, false⟩ := fun outside => Bool.noConfusion outside.2.1
  rw [decide_of_inside link, decide_of_inside file, active_eq_asked]
  -- No stage in front of the fallback looks at the flags.
  cases decided : (singleProxy? ctx (p.asked ctx) candidate).or ((groupProxy? ctx (p.asked ctx) candidate).or
      (taggedRoute? ctx (p.asked ctx) candidate)) with
  | some o => exact .inl ⟨rfl, fun unmatched => stage_ne_fallback decided unmatched.1⟩
  | none =>
    rw [Option.getD_none, Option.getD_none, fallback_link]
    cases routes : hasOtherRoutes (p.asked ctx) with
    | true => exact .inl ⟨rfl, fun unmatched => Bool.noConfusion unmatched.2⟩
    | false => exact .inr ⟨rfl, rfl, rfl⟩

/-- A storage link takes the route of a file that may not be proxied for its place, and the bypass does not matter to
it. The reasons differ exactly when nothing matches and no entry has another route. To leave early for want of one is
right: the scan finds none exactly when there is no group of entries to try. -/
theorem decide_storageLink (p : RoutePolicy) (ctx : Context) (candidate : String) (bypass : Bool) :
    (p.decide ctx ⟨candidate, true, bypass⟩).SameButReason (p.decide ctx ⟨candidate, false, false⟩) ∧
      ((p.decide ctx ⟨candidate, true, bypass⟩).reason ≠ (p.decide ctx ⟨candidate, false, false⟩).reason ↔
        (p.decide ctx ⟨candidate, false, false⟩).stage = .fallback ∧ hasOtherRoutes (p.active ctx) = false) ∧
      (hasOtherRoutes (p.active ctx) = false ↔ groupBy Entry.otherRoute? (p.active ctx) = []) := by
  refine and_assoc.mp ⟨?_, hasOtherRoutes_eq_false_iff_groupBy⟩
  rcases decide_link_or p ctx candidate bypass with ⟨same, routed⟩ | ⟨link, file, routeless⟩
  · rw [same]
    exact ⟨⟨rfl, rfl, rfl⟩, iff_of_false (fun differ => differ rfl) routed⟩
  · rw [link, file]
    exact ⟨⟨rfl, rfl, rfl⟩, iff_of_true (by decide) ⟨rfl, routeless⟩⟩

end RoutePolicy

end StreamPolicy
