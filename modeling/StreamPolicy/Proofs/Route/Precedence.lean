import StreamPolicy.Proofs.Rule.Grouping
import StreamPolicy.Route.Routing

/-!
# The precedence of routes

The outcome of a request as a relation: which entries take part, what each stage wants of them, and
which of them an outcome names. The relation knows neither groups built on the way nor an order of
evaluation; `decide_eq_iff_routed` says that the decision is the one outcome it allows.
-/

namespace StreamPolicy

namespace Entry

/-- The rule of the entry matches. -/
def Matches (ctx : Context) (candidate : String) (e : Entry) : Prop :=
  e.rule.holds ctx candidate = true

/-- An entry that proxies without a group: one without a route, or one tagged for the proxy. -/
inductive ProxiesAlone : Entry → Prop
  | bare (r : Rule) : ProxiesAlone (.bare r)
  | single (r : Rule) : ProxiesAlone (.single r)
  | tagged (r : Rule) : ProxiesAlone (.tagged .proxy none r)

/-- An entry that proxies with the others of a name. -/
inductive ProxiesIn : Entry → String → Prop
  | grouped (n : String) (r : Rule) : ProxiesIn (.grouped n r) n
  | tagged (n : String) (r : Rule) : ProxiesIn (.tagged .proxy (some n) r) n

/-- An entry tagged with a route that is not the proxy. -/
inductive Leads : Entry → Decision → Prop
  | tagged {d : Decision} (label : Option String) (r : Rule) (other : d ≠ .proxy) : Leads (.tagged d label r) d

theorem isSingleProxy_iff (e : Entry) : e.isSingleProxy = true ↔ e.ProxiesAlone := by
  constructor
  · intro alone
    cases e with
    | bare r => exact .bare r
    | single r => exact .single r
    | grouped n r => cases alone
    | tagged d label r =>
      simp only [isSingleProxy, Bool.and_eq_true, decide_eq_true_eq, Option.isNone_iff_eq_none] at alone
      obtain ⟨rfl, rfl⟩ := alone
      exact .tagged r
  · rintro (_ | _ | _) <;> rfl

theorem proxyGroup?_eq_some_iff (e : Entry) (n : String) : e.proxyGroup? = some n ↔ e.ProxiesIn n := by
  constructor
  · intro carries
    cases e with
    | bare r => cases carries
    | single r => cases carries
    | grouped m r => cases carries; exact .grouped n r
    | tagged d label r =>
      by_cases proxy : d = .proxy
      · subst proxy
        simp only [proxyGroup?, if_true] at carries
        subst carries
        exact .tagged n r
      · simp [proxyGroup?, proxy] at carries
  · rintro (_ | _) <;> rfl

theorem otherRoute?_eq_some_iff (e : Entry) (d : Decision) : e.otherRoute? = some d ↔ e.Leads d := by
  constructor
  · intro leads
    obtain ⟨route, other⟩ := Option.filter_eq_some_iff.mp leads
    cases e with
    | tagged d' label r => cases route; exact .tagged label r (by simpa using other)
    | _ => cases route
  · rintro ⟨label, r, other⟩
    simp [otherRoute?, route?, other]

end Entry

namespace RoutePolicy

/-- The entries that take part: for a request of the proxy itself, not those that look at the
address of the client. -/
def asked (p : RoutePolicy) (ctx : Context) : List Entry :=
  p.entries.filter fun e => ¬ (ctx.isInternal = true ∧ e.readsRemoteAddr = true)

/-- A file that may be proxied and lies under no mount; without mounts, or with an empty one, there
is none. -/
def Outside (p : RoutePolicy) (q : RouteQuery) : Prop :=
  q.isStorageLink = false ∧ q.localBypass = true ∧ p.mounts ≠ [] ∧
    ∀ m ∈ p.mounts, m ≠ "" ∧ ¬ m.toList <+: q.candidate.toList

/-- All entries that proxy under a name match. -/
def GroupMatches (ctx : Context) (candidate : String) (entries : List Entry) (n : String) : Prop :=
  ∀ e ∈ entries, e.ProxiesIn n → e.Matches ctx candidate

/-- What a request hits of the entries for a route, and the words for it. -/
inductive Awards (ctx : Context) (candidate : String) (entries : List Entry) (d : Decision) :
    String → String → Prop
  /-- The first entry for the route has a label: all entries for the route match. -/
  | together {e : Entry} {label : String} (first : First (·.Leads d) entries e) (labelled : e.group? = some label)
      (all : ∀ e ∈ entries, e.Leads d → e.Matches ctx candidate) :
      Awards ctx candidate entries d label (d.tag ++ " group matched")
  /-- The first entry for the route has no label: one entry for the route matches. -/
  | alone {e hit : Entry} (first : First (·.Leads d) entries e) (unlabelled : e.group? = none)
      (one : First (fun e => e.Leads d ∧ e.Matches ctx candidate) entries hit) :
      Awards ctx candidate entries d hit.display (d.tag ++ " rule matched")

/-- The stages before the routes other than the proxy decide nothing. -/
structure Unproxied (p : RoutePolicy) (ctx : Context) (q : RouteQuery) : Prop where
  inside : ¬ p.Outside q
  alone : ∀ e ∈ p.asked ctx, ¬ (e.ProxiesAlone ∧ e.Matches ctx q.candidate)
  together : ∀ e ∈ p.asked ctx, ∀ n, e.ProxiesIn n → ¬ GroupMatches ctx q.candidate (p.asked ctx) n

/-- The outcome of a request. -/
inductive Routed (p : RoutePolicy) (ctx : Context) (q : RouteQuery) : Outcome → Prop
  | outside (outside : p.Outside q) :
      Routed p ctx q ⟨.proxy, .mountPath, none, "candidate is outside every media mount"⟩
  | single {e : Entry} (inside : ¬ p.Outside q)
      (first : First (fun e => e.ProxiesAlone ∧ e.Matches ctx q.candidate) (p.asked ctx) e) :
      Routed p ctx q ⟨.proxy, .singleProxy, some e.display, "proxy rule matched"⟩
  | group {n : String} (inside : ¬ p.Outside q)
      (alone : ∀ e ∈ p.asked ctx, ¬ (e.ProxiesAlone ∧ e.Matches ctx q.candidate))
      (first : FirstName Entry.ProxiesIn (GroupMatches ctx q.candidate (p.asked ctx)) (p.asked ctx) n) :
      Routed p ctx q ⟨.proxy, .groupProxy, some n, "proxy group matched"⟩
  | tagged {d : Decision} {matched reason : String} (unproxied : p.Unproxied ctx q)
      (first : FirstName Entry.Leads (fun d => ∃ m r, Awards ctx q.candidate (p.asked ctx) d m r) (p.asked ctx) d)
      (awards : Awards ctx q.candidate (p.asked ctx) d matched reason) :
      Routed p ctx q ⟨d, .taggedRoute, some matched, reason⟩
  | routeless (unproxied : p.Unproxied ctx q) (link : q.isStorageLink = true)
      (none : ∀ e ∈ p.asked ctx, ∀ d, ¬ e.Leads d) :
      Routed p ctx q ⟨.redirect, .fallback, Option.none, "storage link with no route rules"⟩
  | unmatched (unproxied : p.Unproxied ctx q)
      (some : q.isStorageLink = true → ∃ e ∈ p.asked ctx, ∃ d, e.Leads d)
      (none : ∀ e ∈ p.asked ctx, ∀ d, e.Leads d → ¬ ∃ m r, Awards ctx q.candidate (p.asked ctx) d m r) :
      Routed p ctx q ⟨.redirect, .fallback, Option.none, "no rule matched"⟩

/-! ## What each stage decides -/

theorem active_eq_asked (p : RoutePolicy) (ctx : Context) : p.active ctx = p.asked ctx := by
  simp only [active, asked]
  congr 1
  funext e
  cases ctx.isInternal <;> cases e.readsRemoteAddr <;> rfl

theorem outside_iff (p : RoutePolicy) (q : RouteQuery) :
    (!q.isStorageLink && q.localBypass && isOutside p.mounts q.candidate) = true ↔ p.Outside q := by
  have mount (m : String) : Text.startsWith q.candidate m = true ↔ m.toList <+: q.candidate.toList :=
    List.isPrefixOf_iff_prefix
  simp [isOutside, Outside, ← mount, and_assoc]

theorem singleProxy?_eq_some_iff {ctx : Context} {entries : List Entry} {candidate : String} {o : Outcome} :
    singleProxy? ctx entries candidate = some o ↔
      ∃ e, First (fun e => e.ProxiesAlone ∧ e.Matches ctx candidate) entries e ∧
        o = ⟨.proxy, .singleProxy, some e.display, "proxy rule matched"⟩ := by
  have reads (e : Entry) : (e.isSingleProxy && e.rule.holds ctx candidate) = true ↔
      e.ProxiesAlone ∧ e.Matches ctx candidate := by
    rw [Bool.and_eq_true, Entry.isSingleProxy_iff, Entry.Matches]
  rw [singleProxy?, Option.map_eq_some_iff]
  simp only [find?_eq_some_iff_first reads, eq_comm]

theorem singleProxy?_eq_none_iff {ctx : Context} {entries : List Entry} {candidate : String} :
    singleProxy? ctx entries candidate = none ↔
      ∀ e ∈ entries, ¬ (e.ProxiesAlone ∧ e.Matches ctx candidate) := by
  rw [singleProxy?, Option.map_eq_none_iff]
  apply find?_eq_none_iff_forall
  intro e
  rw [Bool.and_eq_true, Entry.isSingleProxy_iff, Entry.Matches]

/-- The group of a key that some entry has matches when all entries of that key do. -/
theorem groupHolds_membersOf {κ : Type} [DecidableEq κ] {key : Entry → Option κ} {entries : List Entry} {e : Entry}
    {k : κ} (member : e ∈ entries) (keyed : key e = some k) (ctx : Context) (candidate : String) :
    groupHolds ctx ((membersOf key entries k).map Entry.rule) candidate = true ↔
      ∀ e ∈ entries, key e = some k → e.Matches ctx candidate := by
  have inside : e ∈ membersOf key entries k := by simp [membersOf, member, keyed]
  have inhabited : (membersOf key entries k).map Entry.rule ≠ [] := List.ne_nil_of_mem (List.mem_map_of_mem inside)
  rw [groupHolds_iff, and_iff_right inhabited, List.forall_mem_map]
  simp [membersOf, Entry.Matches]

/-- The stage of proxy groups as a search among the groups. -/
theorem groupProxy?_eq_findSome? (ctx : Context) (entries : List Entry) (candidate : String) :
    groupProxy? ctx entries candidate =
      (groupBy Entry.proxyGroup? entries).findSome? fun g =>
        if groupHolds ctx (g.2.map Entry.rule) candidate then
          some ⟨.proxy, .groupProxy, some g.1, "proxy group matched"⟩
        else none := by
  rw [groupProxy?, List.find?_eq_findSome?_guard, List.map_findSome?]
  congr 1
  funext g
  by_cases holds : groupHolds ctx (g.2.map Entry.rule) candidate = true
  · simp [Option.guard, holds]
  · simp [Option.guard, holds]

theorem groupProxy?_eq_some_iff {ctx : Context} {entries : List Entry} {candidate : String} {o : Outcome} :
    groupProxy? ctx entries candidate = some o ↔
      ∃ n, FirstName Entry.ProxiesIn (GroupMatches ctx candidate entries) entries n ∧
        o = ⟨.proxy, .groupProxy, some n, "proxy group matched"⟩ := by
  have holds {e : Entry} {n : String} (member : e ∈ entries) (carries : e.ProxiesIn n) :
      groupHolds ctx ((membersOf Entry.proxyGroup? entries n).map Entry.rule) candidate = true ↔
        GroupMatches ctx candidate entries n := by
    rw [groupHolds_membersOf member ((Entry.proxyGroup?_eq_some_iff e n).mpr carries)]
    simp only [GroupMatches, Entry.proxyGroup?_eq_some_iff]
  rw [groupProxy?_eq_findSome?, findSome?_groupBy_eq_some_iff]
  simp only [Option.ite_none_right_eq_some, Option.some.injEq, Entry.proxyGroup?_eq_some_iff]
  constructor
  · rintro ⟨before, e, after, n, split, carries, ⟨hit, rfl⟩, earlier⟩
    have member : e ∈ entries := by simp [split]
    refine ⟨n, ⟨before, e, after, split, carries, (holds member carries).mp hit, ?_⟩, rfl⟩
    intro b inBefore m carries' matched
    have member' : b ∈ entries := by simp [split, inBefore]
    simpa [(holds member' carries').mpr matched] using earlier b inBefore m carries'
  · rintro ⟨n, ⟨before, e, after, split, carries, matched, earlier⟩, rfl⟩
    have member : e ∈ entries := by simp [split]
    refine ⟨before, e, after, n, split, carries, ⟨(holds member carries).mpr matched, rfl⟩, ?_⟩
    intro b inBefore m carries'
    have member' : b ∈ entries := by simp [split, inBefore]
    exact if_neg fun hit => earlier b inBefore m carries' ((holds member' carries').mp hit)

theorem groupProxy?_eq_none_iff {ctx : Context} {entries : List Entry} {candidate : String} :
    groupProxy? ctx entries candidate = none ↔
      ∀ e ∈ entries, ∀ n, e.ProxiesIn n → ¬ GroupMatches ctx candidate entries n := by
  rw [groupProxy?_eq_findSome?, findSome?_groupBy_eq_none_iff]
  refine forall₂_congr fun e member => forall_congr' fun n => ?_
  rw [Entry.proxyGroup?_eq_some_iff]
  refine imp_congr_right fun carries => ?_
  rw [ite_eq_right_iff, groupHolds_membersOf member ((Entry.proxyGroup?_eq_some_iff e n).mpr carries)]
  simp [GroupMatches, Entry.proxyGroup?_eq_some_iff]

/-- The entries of a route that some entry leads to start with the first that leads there. -/
theorem head?_leading {entries : List Entry} {e : Entry} {d : Decision} (member : e ∈ entries) (leads : e.Leads d) :
    ∃ first, (membersOf Entry.otherRoute? entries d).head? = some first ∧ First (·.Leads d) entries first := by
  have reads (e : Entry) : Decidable.decide (e.otherRoute? = some d) = true ↔ e.Leads d := by
    rw [decide_eq_true_iff, Entry.otherRoute?_eq_some_iff]
  rw [membersOf, List.head?_filter]
  cases found : entries.find? fun e => Decidable.decide (e.otherRoute? = some d) with
  | some first => exact ⟨first, rfl, (find?_eq_some_iff_first reads).mp found⟩
  | none => exact absurd leads ((find?_eq_none_iff_forall reads).mp found e member)

theorem routeOutcome?_eq_some_iff {ctx : Context} {candidate : String} {entries : List Entry} {e : Entry}
    {d : Decision} (member : e ∈ entries) (leads : e.Leads d) {o : Outcome} :
    routeOutcome? ctx candidate d (membersOf Entry.otherRoute? entries d) = some o ↔
      ∃ matched reason, Awards ctx candidate entries d matched reason ∧
        o = ⟨d, .taggedRoute, some matched, reason⟩ := by
  obtain ⟨head, isHead, first⟩ := head?_leading member leads
  have together : groupHolds ctx ((membersOf Entry.otherRoute? entries d).map Entry.rule) candidate = true ↔
      ∀ e ∈ entries, e.Leads d → e.Matches ctx candidate := by
    rw [groupHolds_membersOf member ((Entry.otherRoute?_eq_some_iff e d).mpr leads)]
    simp only [Entry.otherRoute?_eq_some_iff]
  have one (hit : Entry) : (membersOf Entry.otherRoute? entries d).find? (fun e => e.rule.holds ctx candidate) =
      some hit ↔ First (fun e => e.Leads d ∧ e.Matches ctx candidate) entries hit := by
    rw [membersOf, List.find?_filter]
    apply find?_eq_some_iff_first
    intro e
    simp [Entry.otherRoute?_eq_some_iff, Entry.Matches]
  rw [routeOutcome?, isHead, Option.bind_some]
  cases label : head.group? with
  | some text =>
    simp only [Option.ite_none_right_eq_some, together, Option.some.injEq]
    constructor
    · rintro ⟨all, rfl⟩
      exact ⟨text, _, .together first label all, rfl⟩
    · rintro ⟨_, _, awards, rfl⟩
      cases awards with
      | together first' labelled all =>
        have same := first'.unique first
        subst same
        rw [label] at labelled
        cases labelled
        exact ⟨all, rfl⟩
      | alone first' unlabelled =>
        rw [first'.unique first, label] at unlabelled
        cases unlabelled
  | none =>
    simp only [Option.map_eq_some_iff, one]
    constructor
    · rintro ⟨hit, hits, rfl⟩
      exact ⟨_, _, .alone first label hits, rfl⟩
    · rintro ⟨_, _, awards, rfl⟩
      cases awards with
      | together first' labelled =>
        rw [first'.unique first, label] at labelled
        cases labelled
      | alone first' unlabelled hits => exact ⟨_, hits, rfl⟩

theorem routeOutcome?_eq_none_iff {ctx : Context} {candidate : String} {entries : List Entry} {e : Entry}
    {d : Decision} (member : e ∈ entries) (leads : e.Leads d) :
    routeOutcome? ctx candidate d (membersOf Entry.otherRoute? entries d) = none ↔
      ¬ ∃ matched reason, Awards ctx candidate entries d matched reason := by
  rw [← Option.not_isSome_iff_eq_none, Option.isSome_iff_exists]
  simp [routeOutcome?_eq_some_iff member leads]

theorem taggedRoute?_eq_some_iff {ctx : Context} {entries : List Entry} {candidate : String} {o : Outcome} :
    taggedRoute? ctx entries candidate = some o ↔
      ∃ d matched reason,
        FirstName Entry.Leads (fun d => ∃ m r, Awards ctx candidate entries d m r) entries d ∧
        Awards ctx candidate entries d matched reason ∧ o = ⟨d, .taggedRoute, some matched, reason⟩ := by
  rw [taggedRoute?, findSome?_groupBy_eq_some_iff]
  simp only [Entry.otherRoute?_eq_some_iff]
  constructor
  · rintro ⟨before, e, after, d, split, leads, decided, earlier⟩
    obtain ⟨matched, reason, awards, rfl⟩ := (routeOutcome?_eq_some_iff (by simp [split]) leads).mp decided
    refine ⟨d, matched, reason, ⟨before, e, after, split, leads, ⟨matched, reason, awards⟩, ?_⟩, awards, rfl⟩
    intro b inBefore d' leads'
    exact (routeOutcome?_eq_none_iff (by simp [split, inBefore]) leads').mp (earlier b inBefore d' leads')
  · rintro ⟨d, matched, reason, ⟨before, e, after, split, leads, _, earlier⟩, awards, rfl⟩
    refine ⟨before, e, after, d, split, leads, ?_, ?_⟩
    · exact (routeOutcome?_eq_some_iff (by simp [split]) leads).mpr ⟨matched, reason, awards, rfl⟩
    · intro b inBefore d' leads'
      exact (routeOutcome?_eq_none_iff (by simp [split, inBefore]) leads').mpr (earlier b inBefore d' leads')

theorem taggedRoute?_eq_none_iff {ctx : Context} {entries : List Entry} {candidate : String} :
    taggedRoute? ctx entries candidate = none ↔
      ∀ e ∈ entries, ∀ d, e.Leads d → ¬ ∃ m r, Awards ctx candidate entries d m r := by
  rw [taggedRoute?, findSome?_groupBy_eq_none_iff]
  refine forall₂_congr fun e member => forall_congr' fun d => ?_
  rw [Entry.otherRoute?_eq_some_iff]
  exact imp_congr_right fun leads => routeOutcome?_eq_none_iff member leads

theorem any_otherRoute?_iff (entries : List Entry) :
    entries.any (fun e => e.otherRoute?.isSome) = true ↔ ∃ e ∈ entries, ∃ d, e.Leads d := by
  simp [Option.isSome_iff_exists, Entry.otherRoute?_eq_some_iff]

/-- The scan for other routes finds the entries that their groups are built of. -/
theorem hasOtherRoutes_eq (entries : List Entry) :
    hasOtherRoutes entries = entries.any fun e => e.otherRoute?.isSome := by
  simp only [hasOtherRoutes, Entry.otherRoute?, Option.isSome_filter]

theorem hasOtherRoutes_eq_false_iff {entries : List Entry} :
    hasOtherRoutes entries = false ↔ ∀ e ∈ entries, ∀ d, ¬ e.Leads d := by
  rw [← Bool.not_eq_true, hasOtherRoutes_eq, any_otherRoute?_iff]
  simp only [not_exists, not_and]

/-- Without an entry for another route there is no group to search. -/
theorem taggedRoute?_of_routeless {entries : List Entry} (routeless : hasOtherRoutes entries = false) (ctx : Context)
    (candidate : String) : taggedRoute? ctx entries candidate = none :=
  taggedRoute?_eq_none_iff.mpr fun e member d leads =>
    absurd leads (hasOtherRoutes_eq_false_iff.mp routeless e member d)

/-- What a request gets when no stage decides. -/
def fallback (active : List Entry) (q : RouteQuery) : Outcome :=
  if q.isStorageLink && !active.any (fun e => e.otherRoute?.isSome) then
    .fallback "storage link with no route rules"
  else .fallback "no rule matched"

/-- To leave before the routes are tried makes no difference: where that happens, no route would decide. -/
theorem behindProxy_eq (ctx : Context) (active : List Entry) (q : RouteQuery) :
    behindProxy ctx active q = (taggedRoute? ctx active q.candidate).getD (fallback active q) := by
  rw [behindProxy, fallback, ← hasOtherRoutes_eq, Bool.and_comm]
  split
  next early =>
    have routeless : hasOtherRoutes active = false := by
      rw [Bool.and_eq_true, Bool.not_eq_true'] at early
      exact early.2
    rw [taggedRoute?_of_routeless routeless, Option.getD_none]
  · rfl

/-! ## The decision -/

theorem decide_of_outside {p : RoutePolicy} {ctx : Context} {q : RouteQuery} (outside : p.Outside q) :
    p.decide ctx q = .unmounted := by
  rw [decide, if_pos ((outside_iff p q).mpr outside)]

theorem decide_of_inside {p : RoutePolicy} {ctx : Context} {q : RouteQuery} (inside : ¬ p.Outside q) :
    p.decide ctx q =
      ((singleProxy? ctx (p.asked ctx) q.candidate).or ((groupProxy? ctx (p.asked ctx) q.candidate).or
        (taggedRoute? ctx (p.asked ctx) q.candidate))).getD (fallback (p.asked ctx) q) := by
  rw [decide, if_neg (fun outside => inside ((outside_iff p q).mp outside)), active_eq_asked, behindProxy_eq]
  cases singleProxy? ctx (p.asked ctx) q.candidate with
  | some o => rfl
  | none => cases groupProxy? ctx (p.asked ctx) q.candidate <;> rfl

theorem decide_of_unproxied {p : RoutePolicy} {ctx : Context} {q : RouteQuery} (unproxied : p.Unproxied ctx q) :
    p.decide ctx q = (taggedRoute? ctx (p.asked ctx) q.candidate).getD (fallback (p.asked ctx) q) := by
  rw [decide_of_inside unproxied.inside, singleProxy?_eq_none_iff.mpr unproxied.alone,
    groupProxy?_eq_none_iff.mpr unproxied.together, Option.none_or, Option.none_or]

theorem fallback_of_routeless {entries : List Entry} {q : RouteQuery} (link : q.isStorageLink = true)
    (none : ∀ e ∈ entries, ∀ d, ¬ e.Leads d) :
    fallback entries q = ⟨.redirect, .fallback, Option.none, "storage link with no route rules"⟩ := by
  have routeless : entries.any (fun e => e.otherRoute?.isSome) = false := by
    rw [Bool.eq_false_iff]
    intro some
    obtain ⟨e, member, d, leads⟩ := (any_otherRoute?_iff entries).mp some
    exact none e member d leads
  rw [fallback, link, routeless]
  rfl

theorem fallback_of_routes {entries : List Entry} {q : RouteQuery}
    (some : q.isStorageLink = true → ∃ e ∈ entries, ∃ d, e.Leads d) :
    fallback entries q = ⟨.redirect, .fallback, Option.none, "no rule matched"⟩ := by
  rw [fallback]
  cases link : q.isStorageLink with
  | false => rfl
  | true =>
    rw [(any_otherRoute?_iff entries).mpr (some link)]
    rfl

/-- The decision is an outcome of the relation. -/
theorem routed_decide (p : RoutePolicy) (ctx : Context) (q : RouteQuery) : Routed p ctx q (p.decide ctx q) := by
  by_cases outside : p.Outside q
  · rw [decide_of_outside outside]
    exact .outside outside
  cases single : singleProxy? ctx (p.asked ctx) q.candidate with
  | some o =>
    obtain ⟨e, first, rfl⟩ := singleProxy?_eq_some_iff.mp single
    rw [decide_of_inside outside, single]
    exact .single outside first
  | none =>
    have alone := singleProxy?_eq_none_iff.mp single
    cases group : groupProxy? ctx (p.asked ctx) q.candidate with
    | some o =>
      obtain ⟨n, first, rfl⟩ := groupProxy?_eq_some_iff.mp group
      rw [decide_of_inside outside, single, group]
      exact .group outside alone first
    | none =>
      have unproxied : p.Unproxied ctx q := ⟨outside, alone, groupProxy?_eq_none_iff.mp group⟩
      rw [decide_of_unproxied unproxied]
      cases tagged : taggedRoute? ctx (p.asked ctx) q.candidate with
      | some o =>
        obtain ⟨d, matched, reason, first, awards, rfl⟩ := taggedRoute?_eq_some_iff.mp tagged
        exact .tagged unproxied first awards
      | none =>
        by_cases routes : q.isStorageLink = true → ∃ e ∈ p.asked ctx, ∃ d, e.Leads d
        · rw [Option.getD_none, fallback_of_routes routes]
          exact .unmatched unproxied routes (taggedRoute?_eq_none_iff.mp tagged)
        · obtain ⟨link, routeless⟩ := Classical.not_imp.mp routes
          have none : ∀ e ∈ p.asked ctx, ∀ d, ¬ e.Leads d :=
            fun e member d leads => routeless ⟨e, member, d, leads⟩
          rw [Option.getD_none, fallback_of_routeless link none]
          exact .routeless unproxied link none

/-- The relation allows no outcome but the decision. -/
theorem decide_eq_of_routed {p : RoutePolicy} {ctx : Context} {q : RouteQuery} {o : Outcome}
    (routed : Routed p ctx q o) : p.decide ctx q = o := by
  cases routed with
  | outside outside => exact decide_of_outside outside
  | single inside first =>
    rw [decide_of_inside inside, singleProxy?_eq_some_iff.mpr ⟨_, first, rfl⟩]
    rfl
  | group inside alone first =>
    rw [decide_of_inside inside, singleProxy?_eq_none_iff.mpr alone, groupProxy?_eq_some_iff.mpr ⟨_, first, rfl⟩]
    rfl
  | tagged unproxied first awards =>
    rw [decide_of_unproxied unproxied, taggedRoute?_eq_some_iff.mpr ⟨_, _, _, first, awards, rfl⟩]
    rfl
  | routeless unproxied link none =>
    have untagged : taggedRoute? ctx (p.asked ctx) q.candidate = .none :=
      taggedRoute?_eq_none_iff.mpr fun e member d leads => absurd leads (none e member d)
    rw [decide_of_unproxied unproxied, untagged, Option.getD_none, fallback_of_routeless link none]
  | unmatched unproxied some none =>
    rw [decide_of_unproxied unproxied, taggedRoute?_eq_none_iff.mpr none, Option.getD_none,
      fallback_of_routes some]

/-- A request is routed to the one outcome that the precedence of the stages gives it. -/
theorem decide_eq_iff_routed (p : RoutePolicy) (ctx : Context) (q : RouteQuery) (o : Outcome) :
    p.decide ctx q = o ↔ Routed p ctx q o := by
  constructor
  · rintro rfl
    exact routed_decide p ctx q
  · exact decide_eq_of_routed

end RoutePolicy

end StreamPolicy
