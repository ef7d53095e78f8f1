import StreamPolicy.Proofs.Route.Coherence
import StreamPolicy.Proofs.Rule.Modes
import StreamPolicy.Proofs.Text.Quoted

/-!
# Entries told apart by what is shown

Reports name an entry by its text alone. The text shows the labels and the source of the entry in quotes,
then its mode as it stands and its pattern. How many quoted fields stand in front of the mode says which
shape it is, but for a group name and the tag of a route, and no group of a list is called like a route of
that list. A mode that names no kind is left out: its text could itself look like quoted fields.
-/

namespace StreamPolicy

/-! ## Rules and entries that look alike -/

/-- Two rules compare the same; the fields behind their patterns may differ. -/
structure Rule.Alike (r r' : Rule) : Prop where
  source : r.source = r'.source
  mode : r.mode = r'.mode
  pattern : r.pattern = r'.pattern

/-- Two entries of one shape carry the same labels, and their rules compare the same. -/
inductive Entry.Alike : Entry → Entry → Prop
  | bare {r r' : Rule} (rules : r.Alike r') : Alike (.bare r) (.bare r')
  | single {r r' : Rule} (rules : r.Alike r') : Alike (.single r) (.single r')
  | grouped {r r' : Rule} (group : String) (rules : r.Alike r') : Alike (.grouped group r) (.grouped group r')
  | tagged {r r' : Rule} (route : Decision) (group : Option String) (rules : r.Alike r') :
      Alike (.tagged route group r) (.tagged route group r')

theorem Rule.Alike.holds_eq {r r' : Rule} (alike : r.Alike r') (ctx : Context) (candidate : String) :
    r.holds ctx candidate = r'.holds ctx candidate := by
  rw [holds, holds, holdsFor, holdsFor, alike.source, alike.mode, alike.pattern]

theorem Entry.Alike.rules {e e' : Entry} (alike : e.Alike e') : e.rule.Alike e'.rule := by
  cases alike <;> assumption

/-! ## Sources -/

/-- What is shown of a source that some text names is a text that names it. -/
theorem Source.ofText_display (text : String) : ofText (ofText text).display = ofText text := by
  by_cases file : text = "filePath"
  · rw [file]
    rfl
  by_cases link : text = "alistRes" ∨ text = "storageLink"
  · rcases link with rfl | rfl <;> rfl
  · have named : ofText text = .expression text := by simp [ofText, file, link]
    rw [named, display, named]

/-! ## Modes -/

namespace MatchMode

theorem spelled_display (mode : MatchMode) : Spelled mode.display mode := by
  obtain ⟨kind, negate⟩ := mode
  cases negate with
  | false => exact .plain kind
  | true => exact .negated kind

theorem display_inj {mode mode' : MatchMode} (same : mode.display = mode'.display) : mode = mode' := by
  have read := mode.spelled_display.ofText?_eq
  rw [same, mode'.spelled_display.ofText?_eq] at read
  exact (Option.some.inj read).symm

theorem comma_not_mem_display (mode : MatchMode) : ',' ∉ mode.display.toList := by
  obtain ⟨kind, negate⟩ := mode
  cases kind <;> cases negate <;> decide

theorem head?_display_ne (mode : MatchMode) (rest : List Char) : (mode.display.toList ++ rest).head? ≠ some '"' := by
  obtain ⟨kind, negate⟩ := mode
  cases kind <;> cases negate <;> simp [display, MatchKind.name]

end MatchMode

/-! ## Patterns -/

/-- Every needle of a pattern is its own text compiled for a kind. -/
def Pattern.CompiledFor (kind : Option MatchKind) (p : Pattern) : Prop :=
  ∀ n ∈ p.needles, n = Needle.compile n.text kind

theorem Pattern.display_inj {kind : Option MatchKind} {p p' : Pattern} (compiled : p.CompiledFor kind)
    (compiled' : p'.CompiledFor kind) (same : p.display = p'.display) : p = p' := by
  have text := congrArg String.toList same
  cases p with
  | one n =>
    cases p' with
    | one n' =>
      have texts : (Text.quote n.text).toList ++ [] = (Text.quote n'.text).toList ++ [] := by simpa [display] using text
      rw [compiled n (List.mem_singleton_self n), compiled' n' (List.mem_singleton_self n'),
        (Text.quote_append_inj.mp texts).1]
    | anyOf ns' => simp [display, Text.toList_quote, Text.quoteList] at text
  | anyOf ns =>
    cases p' with
    | one n' => simp [display, Text.toList_quote, Text.quoteList] at text
    | anyOf ns' =>
      have texts : ns.map Needle.text = ns'.map Needle.text := Text.quoteList_inj same
      have back {needles : List Needle} (compiled : (Pattern.anyOf needles).CompiledFor kind) :
          (needles.map Needle.text).map (Needle.compile · kind) = needles := by
        rw [List.map_map]
        exact (List.map_congr_left fun n member => (compiled n member).symm).trans (List.map_id needles)
      rw [← back compiled, texts, back compiled']

/-! ## The fields of an entry -/

namespace Entry

/-- The texts that stand in quotes in front of the mode. -/
def labels : Entry → List String
  | .bare _ => []
  | .single r => [r.source.display]
  | .grouped group r => [group, r.source.display]
  | .tagged route group r => route.tag :: (group.toList ++ [r.source.display])

/-- The labels as they are shown, each with a comma behind it. -/
def shownLabels (ls : List String) : List Char :=
  ls.flatMap fun l => (Text.quote l).toList ++ [',', ' ']

theorem toList_display (e : Entry) :
    e.display.toList =
      '[' :: (shownLabels e.labels ++
        (e.rule.mode.display.toList ++ ',' :: ' ' :: (e.rule.pattern.display.toList ++ [']']))) := by
  cases e with
  | tagged route group r =>
    cases group <;> simp [display, labels, shownLabels, rule, Rule.display]
  | _ => simp [display, labels, shownLabels, rule, Rule.display]

/-- Labels end where no quote follows. -/
theorem shownLabels_append_inj {ls ls' : List String} {r r' : List Char} (ends : r.head? ≠ some '"')
    (ends' : r'.head? ≠ some '"') (same : shownLabels ls ++ r = shownLabels ls' ++ r') : ls = ls' ∧ r = r' := by
  have quoted (l : String) (ls : List String) (r : List Char) : (shownLabels (l :: ls) ++ r).head? = some '"' := by
    simp [shownLabels, Text.toList_quote]
  induction ls generalizing ls' with
  | nil =>
    cases ls' with
    | nil => exact ⟨rfl, same⟩
    | cons l' ls' => exact absurd ((congrArg List.head? same).trans (quoted l' ls' r')) ends
  | cons l ls ih =>
    cases ls' with
    | nil => exact absurd ((congrArg List.head? same).symm.trans (quoted l ls r)) ends'
    | cons l' ls' =>
      simp only [shownLabels, List.flatMap_cons, List.append_assoc] at same
      obtain ⟨first, rest⟩ := Text.quote_append_inj.mp same
      simp only [List.cons_append, List.nil_append, List.cons.injEq, true_and] at rest
      obtain ⟨later, behind⟩ := ih rest
      exact ⟨by rw [first, later], behind⟩

/-- From the text of an entry whose mode names a kind its fields can be read off. -/
theorem fields_of_display_eq {e e' : Entry} {mode mode' : MatchMode} (known : e.rule.mode = .known mode)
    (known' : e'.rule.mode = .known mode') (same : e.display = e'.display) :
    e.labels = e'.labels ∧ mode = mode' ∧ e.rule.pattern.display = e'.rule.pattern.display := by
  have text := congrArg String.toList same
  rw [toList_display, toList_display, known, known'] at text
  obtain ⟨labels, behind⟩ :=
    shownLabels_append_inj (mode.head?_display_ne _) (mode'.head?_display_ne _) (List.cons.inj text).2
  obtain ⟨modes, rest⟩ := (Text.append_cons_inj mode.comma_not_mem_display mode'.comma_not_mem_display).mp behind
  have pattern := List.append_cancel_right (List.cons.inj rest).2
  exact ⟨labels, MatchMode.display_inj (String.toList_inj.mp modes), String.toList_inj.mp pattern⟩

end Entry

/-! ## What reading a route list makes sure of -/

/-- Some text names the source of a rule, and its texts are compiled for its kind. -/
structure Rule.WellRead (r : Rule) : Prop where
  source : ∃ text, r.source = .ofText text
  compiled : r.pattern.CompiledFor r.mode.kind?

/-- What tells the shapes of the entries of a route list apart: a bare rule looks at the file path, no group is
called like a route, and every route is called by its tag. -/
inductive Entry.WellRead (custom : List String) : Entry → Prop
  | bare {r : Rule} (rule : r.WellRead) (source : r.source = .filePath) : WellRead custom (.bare r)
  | single {r : Rule} (rule : r.WellRead) : WellRead custom (.single r)
  | grouped {r : Rule} {group : String} (rule : r.WellRead) (noTag : ∀ d, ¬ Decision.Tagged custom group d) :
      WellRead custom (.grouped group r)
  | tagged {r : Rule} {route : Decision} {group : Option String} (rule : r.WellRead) (named : route.Named custom) :
      WellRead custom (.tagged route group r)

theorem Rule.Spelled.wellRead {text : String} {fields : List Field} {r : Rule}
    (spelled : Rule.Spelled (.ofText text) fields r) : r.WellRead := by
  refine ⟨⟨text, spelled.source_eq⟩, ?_⟩
  cases spelled with
  | intro valid => exact fun n member => valid.eq_compile member

/-- An entry without a route is in the list as it was read. -/
theorem Entry.eq_of_withRoute? {custom : List String} {e e' : Entry} (kept : e.withRoute? custom = some e')
    (unrouted : e'.route? = none) : e = e' := by
  cases e with
  | bare r =>
    cases extra : r.extra with
    | nil => simpa [withRoute?, extra] using kept
    | cons target rest =>
      simp only [withRoute?, extra, Option.map_eq_some_iff] at kept
      obtain ⟨route, -, rfl⟩ := kept
      cases unrouted
  | _ => exact Option.some.inj kept

theorem wellRead_of_mem_resolveRoutes {custom : List String} {raw : List Field} {e : Entry}
    (member : e ∈ resolveRoutes custom (readEntries custom raw)) : e.WellRead custom := by
  obtain ⟨e₀, listed, kept⟩ := List.mem_filterMap.mp member
  obtain ⟨fields, -, spelled⟩ := exists_spelled_of_mem_readEntries listed
  obtain ⟨text, rest, written⟩ := spelled.exists_rule
  have rule : e.rule.WellRead := Entry.rule_of_withRoute? kept ▸ written.wellRead
  cases e with
  | bare r =>
    cases Entry.eq_of_withRoute? kept rfl
    cases spelled with
    | bare _ bare => exact .bare rule bare.source_eq
  | single r => exact .single rule
  | grouped group r =>
    cases Entry.eq_of_withRoute? kept rfl
    cases spelled with
    | grouped named _ => exact .grouped rule named.noTag
  | tagged route group r => exact .tagged rule (named_of_mem_resolveRoutes member rfl)

/-! ## What is shown names the entry -/

/-- Rules that were read and show the same source, mode and pattern compare the same. -/
theorem Rule.WellRead.alike {r r' : Rule} (read : r.WellRead) (read' : r'.WellRead)
    (source : r.source.display = r'.source.display) (mode : r.mode = r'.mode)
    (pattern : r.pattern.display = r'.pattern.display) : r.Alike r' := by
  obtain ⟨text, named⟩ := read.source
  obtain ⟨text', named'⟩ := read'.source
  refine ⟨?_, mode, Pattern.display_inj read.compiled (mode ▸ read'.compiled) pattern⟩
  rw [named, named', ← Source.ofText_display text, ← Source.ofText_display text', ← named, ← named', source]

namespace Entry

theorem Alike.display_eq {e e' : Entry} (alike : e.Alike e') : e.display = e'.display := by
  have labels : e.labels = e'.labels := by cases alike <;> simp [Entry.labels, ‹Rule.Alike _ _›.source]
  rw [← String.toList_inj, toList_display, toList_display, labels, alike.rules.mode, alike.rules.pattern]

/-- The labels tell the shapes apart, and within a shape they name route, group and source. -/
theorem WellRead.alike {custom : List String} {e e' : Entry} (read : e.WellRead custom) (read' : e'.WellRead custom)
    (labels : e.labels = e'.labels) (mode : e.rule.mode = e'.rule.mode)
    (pattern : e.rule.pattern.display = e'.rule.pattern.display) : e.Alike e' := by
  cases read with
  | bare rule source =>
    cases read' with
    | bare rule' source' => exact .bare (rule.alike rule' (by rw [source, source']) mode pattern)
    | single | grouped | tagged => cases labels
  | single rule =>
    cases read' with
    | single rule' => exact .single (rule.alike rule' (List.singleton_inj.mp labels) mode pattern)
    | bare | grouped | tagged => simp [Entry.labels] at labels
  | @grouped _ group rule noTag =>
    cases read' with
    | grouped rule' _ =>
      obtain ⟨sameGroup, source⟩ := List.cons.inj labels
      subst sameGroup
      exact .grouped group (rule.alike rule' (List.singleton_inj.mp source) mode pattern)
    | tagged _ named =>
      rw [Decision.Named, ← (List.cons.inj labels).1] at named
      exact absurd named (noTag _)
    | bare | single => simp [Entry.labels] at labels
  | @tagged _ route group rule named =>
    cases read' with
    | grouped _ noTag =>
      rw [Decision.Named, (List.cons.inj labels).1] at named
      exact absurd named (noTag _)
    | @tagged _ _ group' rule' named' =>
      obtain ⟨tag, behind⟩ := List.cons.inj labels
      obtain ⟨groups, source⟩ := List.append_inj' behind rfl
      rw [Decision.Named, tag] at named
      have sameRoute := named.unique named'
      have sameGroup : group = group' := by simpa using congrArg List.head? groups
      subst sameRoute sameGroup
      exact .tagged route group (rule.alike rule' (List.singleton_inj.mp source) mode pattern)
    | bare | single => simp [Entry.labels] at labels

/-- Two entries of a route list whose modes name kinds are shown by the same text exactly when they are alike, and
then they match the same candidates for every request. -/
theorem display_eq_iff_alike {custom : List String} {raw : List Field} {e e' : Entry}
    (listed : e ∈ resolveRoutes custom (readEntries custom raw))
    (listed' : e' ∈ resolveRoutes custom (readEntries custom raw)) {mode mode' : MatchMode}
    (known : e.rule.mode = .known mode) (known' : e'.rule.mode = .known mode') :
    (e.display = e'.display ↔ e.Alike e') ∧
      (e.display = e'.display → ∀ ctx candidate, e.rule.holds ctx candidate = e'.rule.holds ctx candidate) := by
  have alike (same : e.display = e'.display) : e.Alike e' := by
    obtain ⟨labels, modes, pattern⟩ := fields_of_display_eq known known' same
    have sameMode : e.rule.mode = e'.rule.mode := by rw [known, known', modes]
    exact (wellRead_of_mem_resolveRoutes listed).alike (wellRead_of_mem_resolveRoutes listed') labels sameMode pattern
  exact ⟨⟨alike, Alike.display_eq⟩, fun same => (alike same).rules.holds_eq⟩

/-- A bare rule that was given its route is shown as the rule that is written with it, commas and quotes in the
pattern notwithstanding. -/
theorem display_eq_iff_alike_givenRoute :
    let pattern : Field := .list [.str "/a", .str "b\", \"c"]
    let raw : List Field := [.list [.str "startsWith", pattern, .str "transcode"],
      .list [.str "transcode", .str "filePath", .int 0, pattern]]
    let rule (extra : List Field) : Rule :=
      ⟨.filePath, .known (.plain .startsWith), .anyOf [.literal "/a", .literal "b\", \"c"], extra⟩
    let given : Entry := .tagged (.custom "transcode") none (rule [.str "transcode"])
    let written : Entry := .tagged (.custom "transcode") none (rule [])
    given ∈ resolveRoutes ["transcode"] (readEntries ["transcode"] raw) ∧
      written ∈ resolveRoutes ["transcode"] (readEntries ["transcode"] raw) ∧
      given.display = written.display ∧ given.Alike written := by
  intro pattern raw rule given written
  have list : resolveRoutes ["transcode"] (readEntries ["transcode"] raw) = [given, written] := by rfl
  have listed : given ∈ resolveRoutes ["transcode"] (readEntries ["transcode"] raw) := by simp [list]
  have listed' : written ∈ resolveRoutes ["transcode"] (readEntries ["transcode"] raw) := by simp [list]
  have shown : given.display = written.display := rfl
  exact ⟨listed, listed', shown, (display_eq_iff_alike listed listed' rfl rfl).1.mp shown⟩

end Entry

end StreamPolicy
