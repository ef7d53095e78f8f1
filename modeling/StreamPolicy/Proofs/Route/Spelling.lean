import StreamPolicy.Proofs.Route.AddressBlindness

/-!
# Two spellings of a route list

A rule on the file path can be written with or without its source, and its route behind the pattern
or in front of the source. Both spellings have one canonical entry, and a decision looks at an entry
as its canonical one looks; only the text that shows a single proxy rule tells them apart.
-/

namespace StreamPolicy

/-! ## Canonical entries -/

/-- The rule without the fields behind its pattern. -/
def Rule.compared (r : Rule) : Rule :=
  { r with extra := [] }

/-- The entry with its source written out and nothing behind its pattern. -/
def Entry.canonical : Entry → Entry
  | .bare r => .single r.compared
  | .single r => .single r.compared
  | .grouped n r => .grouped n r.compared
  | .tagged d n r => .tagged d n r.compared

/-- Two outcomes say the same; a single proxy rule may be shown in two ways. -/
structure Outcome.Agrees (o o' : Outcome) : Prop where
  decision : o.decision = o'.decision
  stage : o.stage = o'.stage
  reason : o.reason = o'.reason
  matched : o.stage ≠ .singleProxy → o.matched = o'.matched

theorem Outcome.Agrees.refl (o : Outcome) : o.Agrees o :=
  ⟨rfl, rfl, rfl, fun _ => rfl⟩

theorem Outcome.Agrees.symm {o o' : Outcome} (agrees : o.Agrees o') : o'.Agrees o :=
  ⟨agrees.decision.symm, agrees.stage.symm, agrees.reason.symm,
    fun other => (agrees.matched (agrees.stage ▸ other)).symm⟩

theorem Outcome.Agrees.trans {o o' o'' : Outcome} (agrees : o.Agrees o') (agrees' : o'.Agrees o'') : o.Agrees o'' :=
  ⟨agrees.decision.trans agrees'.decision, agrees.stage.trans agrees'.stage, agrees.reason.trans agrees'.reason,
    fun other => (agrees.matched other).trans (agrees'.matched (agrees.stage ▸ other))⟩

namespace Entry

@[simp] theorem rule_canonical (e : Entry) : e.canonical.rule = e.rule.compared := by
  cases e <;> rfl

@[simp] theorem holds_compared (r : Rule) (ctx : Context) (candidate : String) :
    r.compared.holds ctx candidate = r.holds ctx candidate :=
  rfl

@[simp] theorem readsRemoteAddr_canonical (e : Entry) : e.canonical.readsRemoteAddr = e.readsRemoteAddr := by
  cases e <;> rfl

@[simp] theorem isSingleProxy_canonical (e : Entry) : e.canonical.isSingleProxy = e.isSingleProxy := by
  cases e <;> rfl

@[simp] theorem proxyGroup?_canonical (e : Entry) : e.canonical.proxyGroup? = e.proxyGroup? := by
  cases e <;> rfl

@[simp] theorem otherRoute?_canonical (e : Entry) : e.canonical.otherRoute? = e.otherRoute? := by
  cases e <;> rfl

@[simp] theorem group?_canonical (e : Entry) : e.canonical.group? = e.group? := by
  cases e <;> rfl

theorem display_canonical {e : Entry} {d : Decision} (route : e.otherRoute? = some d) : e.canonical.display = e.display := by
  cases e with
  | tagged d' n r => cases n <;> rfl
  | _ => cases route

end Entry

theorem groupHolds_canonical (ctx : Context) (es : List Entry) (candidate : String) :
    groupHolds ctx ((es.map Entry.canonical).map Entry.rule) candidate = groupHolds ctx (es.map Entry.rule) candidate := by
  simp [groupHolds, List.all_map, Function.comp_def]

namespace RoutePolicy

/-- The policy with every entry in its canonical form. -/
def canonical (p : RoutePolicy) : RoutePolicy :=
  ⟨p.entries.map Entry.canonical, p.mounts⟩

theorem asked_canonical (p : RoutePolicy) (ctx : Context) :
    p.canonical.asked ctx = (p.asked ctx).map Entry.canonical := by
  simp [asked, canonical, List.filter_map, Function.comp_def]

theorem singleProxy?_canonical (ctx : Context) (entries : List Entry) (candidate : String) :
    singleProxy? ctx (entries.map Entry.canonical) candidate =
      (entries.find? fun e => e.isSingleProxy && e.rule.holds ctx candidate).map fun e =>
        ⟨.proxy, .singleProxy, some e.canonical.display, "proxy rule matched"⟩ := by
  simp [singleProxy?, List.find?_map, Function.comp_def]

theorem groupProxy?_canonical (ctx : Context) (entries : List Entry) (candidate : String) :
    groupProxy? ctx (entries.map Entry.canonical) candidate = groupProxy? ctx entries candidate := by
  rw [groupProxy?, groupBy_map Entry.proxyGroup?_canonical, List.find?_map, groupProxy?, Option.map_map]
  simp only [Function.comp_def, groupHolds_canonical]

theorem routeOutcome?_canonical {ctx : Context} {candidate : String} {d : Decision} {es : List Entry}
    (routed : ∀ e ∈ es, e.otherRoute? = some d) :
    routeOutcome? ctx candidate d (es.map Entry.canonical) = routeOutcome? ctx candidate d es := by
  have label : (es.map Entry.canonical).head?.bind Entry.group? = es.head?.bind Entry.group? := by
    cases es <;> simp
  have hit : ((es.map Entry.canonical).find? fun e => e.rule.holds ctx candidate) =
      (es.find? fun e => e.rule.holds ctx candidate).map Entry.canonical := by
    simp [List.find?_map, Function.comp_def]
  rw [routeOutcome?, label, hit, groupHolds_canonical, Option.map_map, routeOutcome?]
  split
  · rfl
  · cases found : es.find? fun e => e.rule.holds ctx candidate with
    | none => rfl
    | some e =>
      have shown := Entry.display_canonical (routed e (List.mem_of_find?_eq_some found))
      simp [shown]

theorem taggedRoute?_canonical (ctx : Context) (entries : List Entry) (candidate : String) :
    taggedRoute? ctx (entries.map Entry.canonical) candidate = taggedRoute? ctx entries candidate := by
  rw [taggedRoute?, groupBy_map Entry.otherRoute?_canonical, List.findSome?_map, taggedRoute?]
  apply findSome?_congr
  intro g listed
  exact routeOutcome?_canonical fun e member => (key_of_mem_groupBy listed member).2

theorem fallback_canonical (entries : List Entry) (q : RouteQuery) :
    fallback (entries.map Entry.canonical) q = fallback entries q := by
  simp [fallback, List.any_map, Function.comp_def]

/-- A policy and its canonical form decide alike. -/
theorem decide_canonical (p : RoutePolicy) (ctx : Context) (q : RouteQuery) :
    (p.canonical.decide ctx q).Agrees (p.decide ctx q) := by
  by_cases outside : p.Outside q
  · rw [decide_of_outside outside, decide_of_outside (p := p.canonical) outside]
    exact .refl _
  · rw [decide_of_inside outside, decide_of_inside (p := p.canonical) outside, asked_canonical,
      singleProxy?_canonical, groupProxy?_canonical, taggedRoute?_canonical, fallback_canonical, singleProxy?]
    -- All other stages are equal by now; this one shows the entry itself, which a spelling changes.
    cases (p.asked ctx).find? fun e => e.isSingleProxy && e.rule.holds ctx q.candidate with
    | none => exact .refl _
    | some e => exact ⟨rfl, rfl, rfl, fun other => absurd rfl other⟩

end RoutePolicy

/-! ## Spellings -/

/-- An item of a route list, and the same item with the source of its bare rule written out and its
route in front. -/
inductive Field.Respelled (custom : List String) : Field → Field → Prop
  | same (f : Field) : Respelled custom f f
  | proxy {kind : Field} (opens : kind.OpensBare) (pattern : Field) :
      Respelled custom (.list [kind, pattern]) (.list [.str "filePath", kind, pattern])
  | routed {kind : Field} {tag : String} (opens : kind.OpensBare) (pattern : Field)
      (target : tag ∈ Decision.builtinTags ∨ tag ∈ custom ∧ ¬ (Field.str tag).OpensBare) :
      Respelled custom (.list [kind, pattern, .str tag]) (.list [.str tag, .str "filePath", kind, pattern])

/-- The entry of an item of a route list. -/
def Entry.routing? (custom : List String) (f : Field) : Option Entry :=
  (Entry.ofField? custom f).bind (Entry.withRoute? custom)

theorem entries_ofRaw (custom : List String) (raw : List Field) (mounts : List String) :
    (RoutePolicy.ofRaw custom raw mounts).entries = raw.filterMap (Entry.routing? custom) := by
  rw [RoutePolicy.ofRaw, resolveRoutes, readEntries, List.filterMap_filterMap]
  rfl

section
variable {custom : List String} {kind pattern : Field}

/-- The rule on the file path that a mode and a pattern write. -/
def Rule.onPath? (kind pattern : Field) (extra : List Field) : Option Rule :=
  (Rule.pattern? (ModeToken.ofField kind).kind? pattern).map fun p => ⟨.filePath, .ofField kind, p, extra⟩

theorem toOption_map {ε α β : Type} (f : α → β) (x : Except ε α) : (x.map f).toOption = x.toOption.map f := by
  cases x <;> rfl

theorem Rule.readBare_onPath (extra : List Field) :
    (Rule.readBare (kind :: pattern :: extra)).toOption = Rule.onPath? kind pattern extra := by
  simp only [readBare, readPattern, onPath?]
  cases pattern? (ModeToken.ofField kind).kind? pattern <;> rfl

theorem Rule.readAt_onPath (len index : Nat) :
    (Rule.readAt len index [.str "filePath", kind, pattern]).toOption = Rule.onPath? kind pattern [] := by
  simp only [readAt, readText, readPattern, onPath?]
  cases pattern? (ModeToken.ofField kind).kind? pattern <;> rfl

/-- What can stand behind a pattern as a route is a tag and no mode. -/
theorem Decision.tagged_of_target {tag : String}
    (target : tag ∈ builtinTags ∨ tag ∈ custom ∧ ¬ (Field.str tag).OpensBare) :
    ¬ (Field.str tag).OpensBare ∧ ∃ route, Tagged custom tag route := by
  by_cases builtin : tag ∈ builtinTags
  · simp only [builtinTags, List.mem_cons, List.not_mem_nil, or_false] at builtin
    rcases builtin with rfl | rfl | rfl
    · exact ⟨Field.not_opensBare_of_ofText? (by decide), _, .proxy⟩
    · exact ⟨Field.not_opensBare_of_ofText? (by decide), _, .redirect⟩
    · exact ⟨Field.not_opensBare_of_ofText? (by decide), _, .block⟩
  · obtain ⟨listed, noMode⟩ := target.resolve_left builtin
    exact ⟨noMode, _, .custom builtin listed⟩

namespace Entry

theorem routing?_bare (opens : kind.OpensBare) :
    routing? custom (.list [kind, pattern]) = (Rule.onPath? kind pattern []).map .bare := by
  simp only [routing?, ofField?, read_cons_of_opens opens, toOption_map, Rule.readBare_onPath, Rule.onPath?]
  cases Rule.pattern? (ModeToken.ofField kind).kind? pattern <;> rfl

theorem routing?_single (unused : "filePath" ∉ custom) :
    routing? custom (.list [.str "filePath", kind, pattern]) = (Rule.onPath? kind pattern []).map .single := by
  simp only [routing?, ofField?, read_cons_of_named (opensNamed_filePath unused), readNamed, toOption_map,
    Rule.readAt_onPath, Rule.onPath?]
  cases Rule.pattern? (ModeToken.ofField kind).kind? pattern <;> rfl

theorem routing?_target {tag : String} {route : Decision} (opens : kind.OpensBare)
    (tagged : Decision.Tagged custom tag route) :
    routing? custom (.list [kind, pattern, .str tag]) =
      (Rule.onPath? kind pattern [.str tag]).map (.tagged route none) := by
  simp only [routing?, ofField?, read_cons_of_opens opens, toOption_map, Rule.readBare_onPath, Rule.onPath?]
  cases Rule.pattern? (ModeToken.ofField kind).kind? pattern with
  | none => rfl
  | some p => simp [withRoute?, Field.str?, Decision.ofTag?_eq_some_iff.mpr tagged]

theorem routing?_tagged {tag : String} {route : Decision} (noMode : ¬ (Field.str tag).OpensBare)
    (tagged : Decision.Tagged custom tag route) :
    routing? custom (.list [.str tag, .str "filePath", kind, pattern]) =
      (Rule.onPath? kind pattern []).map (.tagged route none) := by
  simp only [routing?, ofField?, read_cons_of_tagged noMode tagged, readTagged, toOption_map,
    Rule.readAt_onPath, Rule.onPath?]
  cases Rule.pattern? (ModeToken.ofField kind).kind? pattern <;> rfl

end Entry

/-- Two spellings of an item have one canonical entry. -/
theorem Field.Respelled.canonical_eq {f f' : Field} (respelled : Field.Respelled custom f f')
    (unused : "filePath" ∉ custom) :
    (Entry.routing? custom f).map Entry.canonical = (Entry.routing? custom f').map Entry.canonical := by
  cases respelled with
  | same => rfl
  | proxy opens pattern =>
    rw [Entry.routing?_bare opens, Entry.routing?_single unused, Option.map_map, Option.map_map]
    rfl
  | routed opens pattern target =>
    obtain ⟨noMode, route, tagged⟩ := Decision.tagged_of_target target
    rw [Entry.routing?_target opens tagged, Entry.routing?_tagged noMode tagged, Rule.onPath?, Rule.onPath?]
    simp only [Option.map_map]
    rfl

end

namespace RoutePolicy

theorem canonical_ofRaw_eq {custom : List String} {raw raw' : List Field} (unused : "filePath" ∉ custom)
    (respelled : List.Forall₂ (Field.Respelled custom) raw raw') (mounts : List String) :
    (ofRaw custom raw mounts).canonical = (ofRaw custom raw' mounts).canonical := by
  have entries : (raw.filterMap (Entry.routing? custom)).map Entry.canonical =
      (raw'.filterMap (Entry.routing? custom)).map Entry.canonical := by
    simp only [List.map_filterMap]
    induction respelled with
    | nil => rfl
    | cons item _ ih => rw [List.filterMap_cons, List.filterMap_cons, item.canonical_eq unused, ih]
  rw [canonical, canonical, entries_ofRaw, entries_ofRaw, entries]
  rfl

/-- Two spellings of a route list route alike: every request gets the same decision at the same stage
for the same reason, and the same text for what matched unless a single proxy rule did. -/
theorem decide_agrees_of_respelled {custom : List String} {raw raw' : List Field} (unused : "filePath" ∉ custom)
    (respelled : List.Forall₂ (Field.Respelled custom) raw raw') (mounts : List String) (ctx : Context)
    (q : RouteQuery) :
    ((ofRaw custom raw mounts).decide ctx q).Agrees ((ofRaw custom raw' mounts).decide ctx q) := by
  have canonical := decide_canonical (ofRaw custom raw mounts) ctx q
  rw [canonical_ofRaw_eq unused respelled mounts] at canonical
  exact canonical.symm.trans (decide_canonical (ofRaw custom raw' mounts) ctx q)

/-- A rule for the proxy, a negated one for a custom route, and one with a mode that there is not. -/
def shortList : List Field :=
  [.list [.int 0, .str "/mnt"],
    .list [.str "match:not", .list [.str "^/srv", .int 4], .str "cdn"],
    .list [.int 7, .str "/x", .str "block"]]

/-- The rules of `shortList` with their source and their route in front. -/
def longList : List Field :=
  [.list [.str "filePath", .int 0, .str "/mnt"],
    .list [.str "cdn", .str "filePath", .str "match:not", .list [.str "^/srv", .int 4]],
    .list [.str "block", .str "filePath", .int 7, .str "/x"]]

/-- The two spellings send a file outside the mount to the custom route alike. -/
theorem decide_agrees_longList :
    "filePath" ∉ ["cdn"] ∧ List.Forall₂ (Field.Respelled ["cdn"]) shortList longList ∧
      ((ofRaw ["cdn"] shortList []).decide Context.empty ⟨"/tv/a", false, false⟩).Agrees
        ((ofRaw ["cdn"] longList []).decide Context.empty ⟨"/tv/a", false, false⟩) := by
  have unused : "filePath" ∉ ["cdn"] := by decide
  have noMode : ¬ (Field.str "cdn").OpensBare := Field.not_opensBare_of_ofText? (by decide)
  have negated : MatchMode.ofField (.str "match:not") = .ok (.negated .regex) := rfl
  have respelled : List.Forall₂ (Field.Respelled ["cdn"]) shortList longList := by
    refine .cons (.proxy (.code 0) _) (.cons (.routed (.mode negated) _ (.inr ⟨?_, noMode⟩))
      (.cons (.routed (.code 7) _ (.inl ?_)) .nil))
    · exact List.mem_singleton_self "cdn"
    · decide
  exact ⟨unused, respelled, decide_agrees_of_respelled unused respelled [] Context.empty ⟨"/tv/a", false, false⟩⟩

end RoutePolicy

end StreamPolicy
