import StreamPolicy.Proofs.Route.AddressBlindness
import StreamPolicy.Proofs.Rule.Blocks

/-!
# Members of a group that cannot be read

An item that names a group and cannot be read is passed over: the list decides as if the item were not there.
Nothing then stands for the member that was meant, and the group asks for the members that were read only.
-/

namespace StreamPolicy

/-- An item that names a group and cannot be read. -/
structure BrokenMember (custom : List String) (group : String) (fields : List Field) : Prop where
  named : Entry.OpensNamed custom group
  first : fields.head? = some (.str group)
  long : 4 ≤ fields.length
  rejected : ∃ err, Entry.read custom fields = .error err

/-! ## What cannot be read -/

theorem Entry.exists_read_grouped_iff {custom : List String} {group : String} (named : OpensNamed custom group)
    {source kind pattern : Field} {extra : List Field} :
    (∃ e, read custom (.str group :: source :: kind :: pattern :: extra) = .ok e) ↔
      (∃ text, source = .str text) ∧ ∃ p, pattern.SpellsPattern (ModeToken.ofField kind).kind? p := by
  simp only [read_eq_ok_iff]
  constructor
  · rintro ⟨e, spelled⟩
    cases spelled with
    | bare opens => exact absurd opens named.noMode
    | taggedAlone _ tagged => exact absurd tagged (named.noTag _)
    | taggedTogether _ tagged => exact absurd tagged (named.noTag _)
    | grouped _ rule =>
      cases rule with
      | intro valid => exact ⟨⟨_, rfl⟩, _, valid⟩
  · rintro ⟨⟨text, rfl⟩, p, valid⟩
    exact ⟨_, .grouped named (.intro valid)⟩

/-- The items that name a group and cannot be read are those with another source than a text, or with a field in
the place of the pattern that writes none. -/
theorem brokenMember_iff {custom : List String} {group : String} {fields : List Field}
    (named : Entry.OpensNamed custom group) :
    BrokenMember custom group fields ↔
      ∃ source kind pattern extra, fields = .str group :: source :: kind :: pattern :: extra ∧
        ¬ ((∃ text, source = .str text) ∧ ∃ p, pattern.SpellsPattern (ModeToken.ofField kind).kind? p) := by
  constructor
  · rintro ⟨-, first, long, err, rejected⟩
    match fields, first, long with
    | .str _ :: source :: kind :: pattern :: extra, rfl, _ =>
      refine ⟨source, kind, pattern, extra, rfl, fun valid => ?_⟩
      obtain ⟨e, wellFormed⟩ := (Entry.exists_read_grouped_iff named).mpr valid
      cases rejected.symm.trans wellFormed
  · rintro ⟨source, kind, pattern, extra, rfl, invalid⟩
    refine ⟨named, rfl, by simp, ?_⟩
    cases answer : Entry.read custom (.str group :: source :: kind :: pattern :: extra) with
    | error err => exact ⟨err, rfl⟩
    | ok e => exact absurd ((Entry.exists_read_grouped_iff named).mp ⟨e, answer⟩) invalid

theorem Entry.ofField?_of_rejected {custom : List String} {fields : List Field} {err : ShapeError}
    (rejected : read custom fields = .error err) : ofField? custom (.list fields) = none := by
  rw [ofField?, rejected]
  rfl

theorem readEntries_append_cons {custom : List String} {item : Field} (unread : Entry.ofField? custom item = none)
    (before after : List Field) : readEntries custom (before ++ item :: after) = readEntries custom (before ++ after) := by
  simp only [readEntries, List.filterMap_append, List.filterMap_cons_none unread]

/-! ## What a group asks for -/

namespace RoutePolicy

/-- A request is decided by a group when some entry of the group is asked, and all of them match. -/
theorem groupMatches_of_decide {p : RoutePolicy} {ctx : Context} {q : RouteQuery} {group : String}
    (stage : (p.decide ctx q).stage = .groupProxy) (matched : (p.decide ctx q).matched = some group) :
    (∃ e ∈ p.asked ctx, e.ProxiesIn group) ∧ GroupMatches ctx q.candidate (p.asked ctx) group := by
  have routed := routed_decide p ctx q
  generalize p.decide ctx q = outcome at stage matched routed
  cases routed with
  | group _ _ first =>
    cases matched
    obtain ⟨before, e, after, split, joins, all, _⟩ := first
    exact ⟨⟨e, by simp [split], joins⟩, all⟩
  | _ => cases stage

end RoutePolicy

/-- The match of a list that belongs to a group is an entry of the list, and all entries of the group match. -/
theorem together_of_firstMatch? {ctx : Context} {entries : List Entry} {candidate group : String} {about : Source}
    {hit : Entry} (found : firstMatch? ctx entries candidate about = some hit) (carries : hit.group? = some group) :
    hit ∈ entries ∧ hit.BelongsTo group ∧ Entry.Together ctx candidate entries group := by
  have ofGroup (chosen : GroupHit ctx candidate entries hit) :
      hit ∈ entries ∧ hit.BelongsTo group ∧ Entry.Together ctx candidate entries group := by
    obtain ⟨n, ⟨_, _, _, _, _, together, _⟩, before, after, split, belongs, _⟩ := chosen
    cases belongs
    cases carries
    exact ⟨by simp [split], .grouped _ _, together⟩
  have flatless (chosen : FlatHit ctx candidate about entries hit) : False := by
    obtain ⟨_, _, _, ⟨flat, _⟩, _⟩ := chosen
    cases flat with
    | bare => cases carries
    | single => cases carries
  -- Whichever block leads, only that of the groups can have found an entry that carries a name.
  cases firstMatch?_eq_some_iff_chosen.mp found with
  | group _ chosen => exact ofGroup chosen
  | flatBehind _ _ chosen => exact (flatless chosen).elim
  | flat _ chosen => exact (flatless chosen).elim
  | groupBehind _ _ chosen => exact ofGroup chosen

/-- A member of a group that cannot be read is passed over: every request is decided, and every search answered,
as if it were not in the list. So a group that it was meant for decides only through entries of the group that
were read, and only when all of these match. -/
theorem brokenMember_passedOver {custom : List String} {group : String} {fields : List Field}
    (broken : BrokenMember custom group fields) (before after : List Field) :
    let raw := before ++ .list fields :: after
    (∀ mounts, RoutePolicy.ofRaw custom raw mounts = RoutePolicy.ofRaw custom (before ++ after) mounts) ∧
      readEntries custom raw = readEntries custom (before ++ after) ∧
      (∀ mounts ctx q, ((RoutePolicy.ofRaw custom raw mounts).decide ctx q).stage = .groupProxy →
        ((RoutePolicy.ofRaw custom raw mounts).decide ctx q).matched = some group →
          let asked := (RoutePolicy.ofRaw custom (before ++ after) mounts).asked ctx
          (∃ e ∈ asked, e.ProxiesIn group) ∧ RoutePolicy.GroupMatches ctx q.candidate asked group) ∧
      ∀ ctx candidate about hit, firstMatch? ctx (readEntries custom raw) candidate about = some hit →
        hit.group? = some group →
          hit ∈ readEntries custom (before ++ after) ∧ hit.BelongsTo group ∧
            Entry.Together ctx candidate (readEntries custom (before ++ after)) group := by
  intro raw
  obtain ⟨err, rejected⟩ := broken.rejected
  have entries : readEntries custom raw = readEntries custom (before ++ after) :=
    readEntries_append_cons (Entry.ofField?_of_rejected rejected) before after
  have policy (mounts : List String) :
      RoutePolicy.ofRaw custom raw mounts = RoutePolicy.ofRaw custom (before ++ after) mounts := by
    rw [RoutePolicy.ofRaw, entries, RoutePolicy.ofRaw]
  refine ⟨policy, entries, ?_, ?_⟩
  · intro mounts ctx q stage matched
    rw [policy] at stage matched
    exact RoutePolicy.groupMatches_of_decide stage matched
  · intro ctx candidate about hit found carries
    rw [entries] at found
    exact together_of_firstMatch? found carries

/-- An item of the group `g` that is read. -/
def wholeMember : List Field :=
  [.str "g", .str "filePath", .str "startsWith", .str "/a"]

/-- An item of the group `g` with a number for its source. -/
def numberedMember : List Field :=
  [.str "g", .int 5, .str "startsWith", .str "/b"]

theorem brokenMember_numberedMember : BrokenMember [] "g" numberedMember := by
  have named : Entry.OpensNamed [] "g" := by
    refine ⟨Field.not_opensBare_of_ofText? (by decide), ?_⟩
    rw [← Decision.ofTag?_eq_none_iff]
    rfl
  refine (brokenMember_iff named).mpr ⟨_, _, _, _, rfl, ?_⟩
  rintro ⟨⟨text, source⟩, -⟩
  cases source

/-- The member that was read decides, and it matches. -/
theorem brokenMember_passedOver_numberedMember :
    let asked := (RoutePolicy.ofRaw [] [.list wholeMember] []).asked Context.empty
    BrokenMember [] "g" numberedMember ∧ (∃ e ∈ asked, e.ProxiesIn "g") ∧
      RoutePolicy.GroupMatches Context.empty "/a/x" asked "g" := by
  obtain ⟨-, -, decided, -⟩ := brokenMember_passedOver brokenMember_numberedMember [.list wholeMember] []
  exact ⟨brokenMember_numberedMember, decided [] Context.empty ⟨"/a/x", false, true⟩ (by decide) (by decide)⟩

/-- A group with a broken member decides a request and is found by a search. -/
theorem decide_brokenMember :
    BrokenMember [] "g" numberedMember ∧
      (RoutePolicy.ofRaw [] [.list wholeMember, .list numberedMember] []).decide Context.empty ⟨"/a/x", false, true⟩ =
        ⟨.proxy, .groupProxy, some "g", "proxy group matched"⟩ ∧
      (firstMatch? Context.empty (readEntries [] [.list wholeMember, .list numberedMember]) "/a/x" .filePath).bind
        Entry.group? = some "g" :=
  ⟨brokenMember_numberedMember, by decide, by decide⟩

end StreamPolicy
