import StreamPolicy.Proofs.Route.Precedence

/-!
# The order of route rules

Which proxy rule or proxy group wins depends on the order of the entries; that one of them wins does
not. The entries for other routes are looked at in their order, so a list that keeps that order routes
every request as before.
-/

namespace StreamPolicy

/-- Two lists hold the same entries, and those for routes other than the proxy in the same order. -/
structure Reordered (entries entries' : List Entry) : Prop where
  perm : entries.Perm entries'
  routes : entries.filter (fun e => e.otherRoute?.isSome) = entries'.filter fun e => e.otherRoute?.isSome

/-- Two outcomes route a request alike and for the same reason. They may name different proxy rules or
proxy groups. -/
structure Outcome.SameRoute (o o' : Outcome) : Prop where
  decision : o.decision = o'.decision
  stage : o.stage = o'.stage
  reason : o.reason = o'.reason
  matched : o.stage = .mountPath ∨ o.stage = .taggedRoute ∨ o.stage = .fallback → o.matched = o'.matched

theorem Outcome.SameRoute.refl (o : Outcome) : o.SameRoute o :=
  ⟨rfl, rfl, rfl, fun _ => rfl⟩

/-- Items without a key do not change the groups. -/
theorem groupBy_filter_keyed {α κ : Type} [DecidableEq κ] (key : α → Option κ) (items : List α) :
    groupBy key (items.filter fun item => (key item).isSome) = groupBy key items := by
  have keys : keysOf key (items.filter fun item => (key item).isSome) = keysOf key items := by
    rw [keysOf_filter, keysOf, keysOf]
    congr 2
    funext item
    cases key item <;> rfl
  have members (k : κ) : membersOf key (items.filter fun item => (key item).isSome) k = membersOf key items k := by
    rw [membersOf, List.filter_filter, membersOf]
    congr 1
    funext item
    cases key item <;> simp
  simp only [groupBy_eq, keys, members]

namespace Reordered

variable {entries entries' : List Entry}

/-- Leaving out entries of one kind on both sides keeps the order of the others. -/
theorem filter (reordered : Reordered entries entries') (keep : Entry → Bool) :
    Reordered (entries.filter keep) (entries'.filter keep) where
  perm := reordered.perm.filter keep
  routes := by
    have swap (es : List Entry) : (es.filter keep).filter (fun e => e.otherRoute?.isSome) =
        (es.filter fun e => e.otherRoute?.isSome).filter keep := by
      simp only [List.filter_filter, Bool.and_comm]
    rw [swap, swap, reordered.routes]

theorem forall_mem_iff (reordered : Reordered entries entries') {P : Entry → Prop} :
    (∀ e ∈ entries, P e) ↔ ∀ e ∈ entries', P e :=
  forall_congr' fun _ => imp_congr_left reordered.perm.mem_iff

end Reordered

namespace RoutePolicy

variable {ctx : Context} {candidate : String} {entries entries' : List Entry}

theorem groupMatches_of_reordered (reordered : Reordered entries entries') (n : String) :
    GroupMatches ctx candidate entries n ↔ GroupMatches ctx candidate entries' n :=
  reordered.forall_mem_iff

theorem singleProxy?_eq_none_of_reordered (reordered : Reordered entries entries') :
    singleProxy? ctx entries candidate = none ↔ singleProxy? ctx entries' candidate = none := by
  rw [singleProxy?_eq_none_iff, singleProxy?_eq_none_iff, reordered.forall_mem_iff]

theorem groupProxy?_eq_none_of_reordered (reordered : Reordered entries entries') :
    groupProxy? ctx entries candidate = none ↔ groupProxy? ctx entries' candidate = none := by
  rw [groupProxy?_eq_none_iff, groupProxy?_eq_none_iff, reordered.forall_mem_iff]
  simp only [groupMatches_of_reordered reordered]

/-- The routes other than the proxy see only their own entries. -/
theorem taggedRoute?_of_reordered (reordered : Reordered entries entries') :
    taggedRoute? ctx entries candidate = taggedRoute? ctx entries' candidate := by
  rw [taggedRoute?, ← groupBy_filter_keyed, reordered.routes, groupBy_filter_keyed, taggedRoute?]

theorem fallback_of_reordered (reordered : Reordered entries entries') (q : RouteQuery) :
    fallback entries q = fallback entries' q := by
  rw [fallback, reordered.perm.any_eq, fallback]

theorem rel_of_absent_iff {o? o'? : Option Outcome} (absent : o? = none ↔ o'? = none)
    (alike : ∀ o ∈ o?, ∀ o' ∈ o'?, o.SameRoute o') : Option.Rel Outcome.SameRoute o? o'? := by
  cases found : o? with
  | none =>
    rw [absent.mp found]
    exact .none
  | some o =>
    cases found' : o'? with
    | none => simp [absent.mpr found'] at found
    | some o' => exact .some (alike o found o' found')

theorem singleProxy?_rel (reordered : Reordered entries entries') :
    Option.Rel Outcome.SameRoute (singleProxy? ctx entries candidate) (singleProxy? ctx entries' candidate) := by
  refine rel_of_absent_iff (singleProxy?_eq_none_of_reordered reordered) fun o single o' single' => ?_
  obtain ⟨e, _, rfl⟩ := singleProxy?_eq_some_iff.mp single
  obtain ⟨e', _, rfl⟩ := singleProxy?_eq_some_iff.mp single'
  exact ⟨rfl, rfl, rfl, by simp⟩

theorem groupProxy?_rel (reordered : Reordered entries entries') :
    Option.Rel Outcome.SameRoute (groupProxy? ctx entries candidate) (groupProxy? ctx entries' candidate) := by
  refine rel_of_absent_iff (groupProxy?_eq_none_of_reordered reordered) fun o group o' group' => ?_
  obtain ⟨n, _, rfl⟩ := groupProxy?_eq_some_iff.mp group
  obtain ⟨n', _, rfl⟩ := groupProxy?_eq_some_iff.mp group'
  exact ⟨rfl, rfl, rfl, by simp⟩

/-- A stage that decides alike, and something alike behind it when it decides nothing. -/
theorem sameRoute_getD {o? o'? : Option Outcome} (stage : Option.Rel Outcome.SameRoute o? o'?) {o o' : Outcome}
    (behind : o.SameRoute o') : (o?.getD o).SameRoute (o'?.getD o') := by
  cases stage with
  | none => exact behind
  | some alike => exact alike

/-- The order of the rules decides nothing but which proxy rule or proxy group is named, as long as the
rules for other routes keep theirs. -/
theorem decide_sameRoute_of_reordered (p : RoutePolicy) {entries : List Entry} (reordered : Reordered p.entries entries)
    (ctx : Context) (q : RouteQuery) : (p.decide ctx q).SameRoute ((RoutePolicy.mk entries p.mounts).decide ctx q) := by
  by_cases outside : p.Outside q
  · rw [decide_of_outside outside, decide_of_outside (p := ⟨entries, p.mounts⟩) outside]
    exact .refl _
  have asked : Reordered (p.asked ctx) ((RoutePolicy.mk entries p.mounts).asked ctx) := reordered.filter _
  rw [decide_of_inside outside, decide_of_inside (p := ⟨entries, p.mounts⟩) outside,
    taggedRoute?_of_reordered asked, fallback_of_reordered asked]
  simp only [Option.getD_or]
  exact sameRoute_getD (singleProxy?_rel asked) (sameRoute_getD (groupProxy?_rel asked) (.refl _))

/-- A proxy rule and a proxy group that both match change places, across two rules for other routes. -/
theorem decide_sameRoute_of_reordered_mixed :
    let rule (text : String) : Rule := ⟨.filePath, .known (.plain .includes), .one (.literal text), []⟩
    let p : RoutePolicy := ⟨[.grouped "g" (rule "/tv"), .tagged .block none (rule "/kids"), .single (rule "/a"),
      .tagged (.custom "cdn") none (rule "/tv"), .single (rule "/tv")], []⟩
    let entries : List Entry := [.single (rule "/tv"), .tagged .block none (rule "/kids"), .single (rule "/a"),
      .tagged (.custom "cdn") none (rule "/tv"), .grouped "g" (rule "/tv")]
    Reordered p.entries entries ∧
      (p.decide Context.empty ⟨"/tv/a", false, false⟩).SameRoute
        ((RoutePolicy.mk entries p.mounts).decide Context.empty ⟨"/tv/a", false, false⟩) := by
  intro rule p entries
  have reordered : Reordered p.entries entries := by
    refine ⟨?_, rfl⟩
    have ends : List.Perm [Entry.grouped "g" (rule "/tv"), Entry.single (rule "/tv")]
        [Entry.single (rule "/tv"), Entry.grouped "g" (rule "/tv")] := .swap ..
    have front (e e' : Entry) (middle : List Entry) : (e :: (middle ++ [e'])).Perm (middle ++ [e, e']) :=
      List.perm_middle.symm
    have back (e e' : Entry) (middle : List Entry) : (middle ++ [e, e']).Perm (e :: (middle ++ [e'])) :=
      List.perm_middle
    exact (front _ _ [_, _, _]).trans ((ends.append_left [_, _, _]).trans (back _ _ [_, _, _]))
  exact ⟨reordered, decide_sameRoute_of_reordered p reordered Context.empty ⟨"/tv/a", false, false⟩⟩

end RoutePolicy

end StreamPolicy
