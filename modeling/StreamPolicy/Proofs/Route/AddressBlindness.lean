import Mathlib.Data.List.Find
import StreamPolicy.Proofs.Request.RemoteAddr
import StreamPolicy.Proofs.Route.Precedence
import StreamPolicy.Proofs.Rule.Reading

/-!
# Requests of the proxy itself and the client's address

A request of the proxy itself does not ask rules that are recognised as looking at the address of
the client. The decision is then the same for every address unless some other rule shows the
address, and any source that does so without being recognised makes a rule list that tells two
addresses apart.
-/

namespace StreamPolicy

open StreamPolicy.Json

/-- The source shows the address of the client and is not recognised as looking at it. -/
def Source.LeaksRemoteAddr (s : Source) : Prop :=
  s.readsRemoteAddr = false ∧ s.ShowsRemoteAddr

namespace RoutePolicy

/-- The policy of a rule list. -/
def ofRaw (custom : List String) (raw : List Field) (mounts : List String) : RoutePolicy :=
  ⟨resolveRoutes custom (readEntries custom raw), mounts⟩

/-- For a request of the proxy itself, two addresses of the client make no difference. -/
def AddressBlind (p : RoutePolicy) : Prop :=
  ∀ (ctx : Context) (a b : String) (q : RouteQuery), ctx.isInternal = true →
    p.decide (ctx.withRemoteAddr a) q = p.decide (ctx.withRemoteAddr b) q

/-! ## Decisions from the same matches -/

theorem groupHolds_congr {ctx ctx' : Context} {candidate : String} {rules : List Rule}
    (same : ∀ r ∈ rules, r.holds ctx candidate = r.holds ctx' candidate) :
    groupHolds ctx rules candidate = groupHolds ctx' rules candidate := by
  have all : rules.all (fun r => r.holds ctx candidate) = rules.all fun r => r.holds ctx' candidate := by
    rw [Bool.eq_iff_iff, List.all_eq_true, List.all_eq_true]
    exact forall₂_congr fun r member => by rw [same r member]
  rw [groupHolds, groupHolds, all]

theorem routeOutcome?_congr {ctx ctx' : Context} {candidate : String} {es : List Entry}
    (same : ∀ e ∈ es, e.rule.holds ctx candidate = e.rule.holds ctx' candidate) (d : Decision) :
    routeOutcome? ctx candidate d es = routeOutcome? ctx' candidate d es := by
  have group : groupHolds ctx (es.map Entry.rule) candidate = groupHolds ctx' (es.map Entry.rule) candidate :=
    groupHolds_congr (by simpa using same)
  rw [routeOutcome?, routeOutcome?, group, List.find?_congr same]

/-- Requests for which the same entries are asked and match are routed alike. -/
theorem decide_congr {p : RoutePolicy} {ctx ctx' : Context} {q : RouteQuery} (asked : p.asked ctx = p.asked ctx')
    (same : ∀ e ∈ p.asked ctx, e.rule.holds ctx q.candidate = e.rule.holds ctx' q.candidate) :
    p.decide ctx q = p.decide ctx' q := by
  by_cases outside : p.Outside q
  · rw [decide_of_outside outside, decide_of_outside outside]
  have member {κ : Type} [DecidableEq κ] {key : Entry → Option κ} {g : κ × List Entry}
      (listed : g ∈ groupBy key (p.asked ctx)) (e : Entry) (inGroup : e ∈ g.2) :
      e.rule.holds ctx q.candidate = e.rule.holds ctx' q.candidate := by
    exact same e (key_of_mem_groupBy listed inGroup).1
  have single : singleProxy? ctx (p.asked ctx) q.candidate = singleProxy? ctx' (p.asked ctx) q.candidate := by
    rw [singleProxy?, singleProxy?]
    congr 1
    exact List.find?_congr fun e listed => by rw [same e listed]
  have group : groupProxy? ctx (p.asked ctx) q.candidate = groupProxy? ctx' (p.asked ctx) q.candidate := by
    rw [groupProxy?, groupProxy?]
    congr 1
    exact List.find?_congr fun g listed => groupHolds_congr (by simpa using member listed)
  have tagged : taggedRoute? ctx (p.asked ctx) q.candidate = taggedRoute? ctx' (p.asked ctx) q.candidate := by
    rw [taggedRoute?, taggedRoute?]
    exact findSome?_congr fun g listed => routeOutcome?_congr (member listed) g.1
  rw [decide_of_inside outside, decide_of_inside outside, ← asked, single, group, tagged]

/-! ## Addresses told apart -/

/-- The rule list of one proxy group `g`, whose one rule asks whether a source holds a text. -/
def asking (source text : String) : List Field :=
  [.list [.str "g", .str source, .str "includes", .str text]]

/-- The rule of `asking`. -/
def askingRule (source text : String) : Rule :=
  ⟨.ofText source, .known ⟨.includes, false⟩, .one (.literal text), []⟩

theorem entries_asking (source text : String) (mounts : List String) :
    (ofRaw [] (asking source text) mounts).entries = [.grouped "g" (askingRule source text)] := by
  rfl

/-- The policy of `asking` decides by its one rule. -/
theorem decide_asking {source text : String} (unread : (Source.ofText source).readsRemoteAddr = false)
    (ctx : Context) (candidate : String) :
    (ofRaw [] (asking source text) []).decide ctx ⟨candidate, false, false⟩ =
      if (askingRule source text).holds ctx candidate then
        ⟨.proxy, .groupProxy, some "g", "proxy group matched"⟩
      else .fallback "no rule matched" := by
  have inside : ¬ (ofRaw [] (asking source text) []).Outside ⟨candidate, false, false⟩ :=
    fun outside => Bool.false_ne_true outside.2.1
  have asked : (ofRaw [] (asking source text) []).asked ctx = [.grouped "g" (askingRule source text)] := by
    rw [RoutePolicy.asked, entries_asking, List.filter_singleton]
    simp [Entry.readsRemoteAddr, Entry.rule, askingRule, unread]
  have single : singleProxy? ctx [.grouped "g" (askingRule source text)] candidate = none := rfl
  have tagged : taggedRoute? ctx [.grouped "g" (askingRule source text)] candidate = none := rfl
  have group : groupBy Entry.proxyGroup? [.grouped "g" (askingRule source text)] =
      [("g", [.grouped "g" (askingRule source text)])] := rfl
  rw [decide_of_inside inside, asked, single, tagged, groupProxy?, group]
  by_cases hit : (askingRule source text).holds ctx candidate = true
  · simp [groupHolds, Entry.rule, hit]
  · simp [groupHolds, Entry.rule, hit, fallback]

theorem holds_askingRule {source text subject : String} {ctx : Context} {candidate : String}
    (found : (Source.ofText source).subject? ctx candidate = some subject) :
    (askingRule source text).holds ctx candidate = (subject ≠ "" && Text.contains subject text) := by
  have stands : (askingRule source text).source.subject? ctx candidate = some subject := found
  rw [Rule.holds, Rule.holdsFor, stands]
  simp [askingRule, ModeToken.compare, MatchMode.accepts, Pattern.needles, Needle.matchesSubject]

/-- A source that leaks makes a policy that tells two addresses apart. -/
theorem not_addressBlind_of_leaks {source : String} (leaks : (Source.ofText source).LeaksRemoteAddr) :
    ∃ text, ¬ (ofRaw [] (asking source text) []).AddressBlind := by
  obtain ⟨unread, shows⟩ := leaks
  let ctx := Context.empty.withArg Context.internalArg "1"
  obtain ⟨shorter, without, _⟩ := Source.exists_subject?_of_shows shows ctx "" ""
  -- An address longer than all that the source shows without one.
  let long := String.ofList (List.replicate (shorter.toList.length + 1) 'x')
  obtain ⟨longer, within, held⟩ := Source.exists_subject?_of_shows shows ctx long ""
  refine ⟨long, fun blind => ?_⟩
  have plain : long.toList <:+: quoteChars long.toList := by
    have unescaped : long.toList.flatMap escapeChar = long.toList := by
      simp [long, List.flatMap_replicate, escapeChar]
    exact ⟨['"'], ['"'], by simp [quoteChars, unescaped]⟩
  have hit : (askingRule source long).holds (ctx.withRemoteAddr long) "" = true := by
    have inside : long.toList <:+: longer.toList := plain.trans held
    rw [holds_askingRule within, Bool.and_eq_true]
    refine ⟨?_, Text.contains_iff.mpr inside⟩
    simp only [ne_eq, decide_not, Bool.not_eq_true', decide_eq_false_iff_not]
    rintro rfl
    simpa [long] using inside.length_le
  have missed : (askingRule source long).holds (ctx.withRemoteAddr "") "" = false := by
    rw [holds_askingRule without, Bool.and_eq_false_imp]
    intro _
    rw [Bool.eq_false_iff]
    intro inside
    have fits := (Text.contains_iff.mp inside).length_le
    simp only [long, String.toList_ofList, List.length_replicate] at fits
    omega
  have same := blind ctx long "" ⟨"", false, false⟩ (by decide)
  rw [decide_asking unread, decide_asking unread, hit, missed] at same
  cases same

/-! ## Which rule lists are blind -/

/-- A policy is blind to the address when no entry leaks it. -/
theorem addressBlind_of_no_leak {p : RoutePolicy} (sealed : ∀ e ∈ p.entries, ¬ e.rule.source.LeaksRemoteAddr) :
    p.AddressBlind := by
  intro ctx a b q internal
  have inner (addr : String) : (ctx.withRemoteAddr addr).isInternal = true :=
    (ctx.isInternal_withRemoteAddr addr).trans internal
  have asked : p.asked (ctx.withRemoteAddr a) = p.asked (ctx.withRemoteAddr b) := by
    rw [RoutePolicy.asked, RoutePolicy.asked, inner, inner]
  refine decide_congr asked fun e member => ?_
  obtain ⟨listed, takesPart⟩ := List.mem_filter.mp member
  have unread : e.rule.source.readsRemoteAddr = false := by
    simpa [inner, Entry.readsRemoteAddr] using takesPart
  have subject := Source.subject?_withRemoteAddr unread (fun shows => sealed e listed ⟨unread, shows⟩) ctx a b
  rw [Rule.holds, Rule.holds, Rule.holdsFor, Rule.holdsFor, subject]

/-- Rule lists whose sources are all of a kind route requests of the proxy itself without regard to
the client's address exactly when no source of the kind shows the address unrecognised: as the text
of the section of variables, or of the root. -/
theorem addressBlind_iff_no_leak (kind : Source → Prop) :
    (∀ custom raw mounts, (∀ e ∈ (ofRaw custom raw mounts).entries, kind e.rule.source) →
      (ofRaw custom raw mounts).AddressBlind) ↔
    ∀ text, kind (.ofText text) → ¬ (Source.ofText text).LeaksRemoteAddr := by
  constructor
  · intro blind source ofKind leaks
    obtain ⟨text, seeing⟩ := not_addressBlind_of_leaks leaks
    refine seeing (blind [] (asking source text) [] ?_)
    intro e member
    rw [entries_asking, List.mem_singleton] at member
    rw [member]
    exact ofKind
  · intro sealed custom raw mounts ofKind
    refine addressBlind_of_no_leak fun e member => ?_
    obtain ⟨text, named⟩ := source_of_mem_resolveRoutes member
    rw [named]
    exact sealed text (named ▸ ofKind e member)

/-- A rule on the section of variables sends the proxy's own request one way for one address of the
client and another way for another. -/
theorem not_addressBlind_variables :
    ¬ (ofRaw [] [.list [.str "r.variables", .str "includes", .str "1.1.1.1"]] []).AddressBlind := by
  intro blind
  have same := blind (Context.empty.withArg Context.internalArg "1") "1.1.1.1" "2.2.2.2" ⟨"", false, false⟩ (by decide)
  revert same
  decide +kernel

end RoutePolicy

end StreamPolicy
