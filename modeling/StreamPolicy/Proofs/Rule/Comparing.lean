import StreamPolicy.Proofs.Rule.Reading
import StreamPolicy.Rule.Evaluation

/-!
# Rules and single comparisons

The texts of a rule are compiled when the rule is read, with the kind that its mode names; a single
comparison compiles its text when it is made. A rule of one text agrees with the comparison with that text,
whatever its mode field is, and a rule of a list with the comparisons with each of its texts. This holds for
every engine that compiles patterns.
-/

namespace StreamPolicy

/-- A needle that is compared as it stands. -/
inductive Needle.IsLiteral : Needle → Prop
  | literal (text : String) : IsLiteral (.literal text)

/-- The needles of the rule suit its kind: those of patterns are compiled, all others stand as they are. -/
def Rule.WellCompiled (r : Rule) : Prop :=
  ∀ n ∈ r.pattern.needles, n.IsLiteral ↔ r.mode.kind? ≠ some .regex

theorem Rule.needleTexts?_map_str (texts : List String) : needleTexts? (texts.map .str) = some texts := by
  induction texts with
  | nil => rfl
  | cons t texts ih => rw [List.map_cons, needleTexts?, ih]; rfl

variable [RegexEngine]

/-- The rule matches exactly when the comparison of the candidate with a text is made and comes out true. -/
def Rule.ComparesWith (r : Rule) (kind : Field) (text : String) : Prop :=
  ∀ ctx candidate, r.holds ctx candidate = true ↔ compareText kind candidate text = .ok true

/-- A candidate that is not empty matches the rule exactly when some straight comparison with one of the texts
comes out true, or none does and the mode is negated. -/
def Rule.ComparesWithAny (r : Rule) (kind : Field) (texts : List String) : Prop :=
  ∀ mode base, MatchMode.ofField kind = .ok mode → MatchMode.ofField base = .ok (.plain mode.kind) →
    ∀ ctx candidate, candidate ≠ "" →
      (r.holds ctx candidate = true ↔
        ¬ ((∃ text ∈ texts, compareText base candidate text = .ok true) ↔ mode.negate = true))

/-! ## Needles -/

theorem Needle.isLiteral_compile_iff {text : String} {kind : Option MatchKind} :
    (compile text kind).IsLiteral ↔ kind ≠ some .regex := by
  unfold compile
  split
  next regex =>
    refine iff_of_false ?_ fun other => other regex
    split
    · rintro ⟨⟩
    · rintro ⟨⟩
  next other => exact iff_of_true (.literal text) other

theorem Rule.Spelled.wellCompiled {source : Source} {fields : List Field} {r : Rule}
    (spelled : Rule.Spelled source fields r) : r.WellCompiled := by
  intro n member
  cases spelled with
  | intro valid =>
    rw [valid.eq_compile member]
    exact Needle.isLiteral_compile_iff

/-! ## Comparisons -/

/-- A single comparison compiles its text and compares as a rule of that text does. -/
theorem compareText_eq_compare (kind : Field) (subject text : String) :
    compareText kind subject text =
      (ModeToken.ofField kind).compare subject (.one (.compile text (ModeToken.ofField kind).kind?)) := by
  rw [compareText, ModeToken.ofField]
  cases MatchMode.ofField kind with
  | ok mode => rfl
  | error e => cases e; rfl

/-- A list of texts is compared text by text, straight, and the answer is turned around when the mode is negated. -/
theorem ModeToken.compare_anyOf_eq_ok_true_iff {kind base : Field} {mode : MatchMode}
    (known : MatchMode.ofField kind = .ok mode) (straight : MatchMode.ofField base = .ok (.plain mode.kind))
    {subject : String} (inhabited : subject ≠ "") (texts : List String) :
    (ofField kind).compare subject (.anyOf (texts.map (Needle.compile · (ofField kind).kind?))) = .ok true ↔
      ¬ ((∃ text ∈ texts, compareText base subject text = .ok true) ↔ mode.negate = true) := by
  have token : ofField kind = .known mode := by rw [ofField, known]
  have one (text : String) : compareText base subject text = .ok true ↔
      (Needle.compile text mode.kind).matchesSubject mode.kind subject = true := by
    simp [compareText, straight, compare, MatchMode.accepts, MatchMode.plain, Pattern.needles, inhabited]
  have any : (texts.map (Needle.compile · mode.kind)).any (·.matchesSubject mode.kind subject) = true ↔
      ∃ text ∈ texts, compareText base subject text = .ok true := by
    simp only [one, List.any_map, List.any_eq_true, Function.comp_apply]
  have accepted : (ofField kind).compare subject (.anyOf (texts.map (Needle.compile · (ofField kind).kind?))) =
      .ok ((texts.map (Needle.compile · mode.kind)).any (·.matchesSubject mode.kind subject) != mode.negate) := by
    simp [token, compare, kind?, mode?, MatchMode.accepts, Pattern.needles, inhabited]
  rw [accepted, Except.ok.injEq, bne_iff_ne, ne_eq, Bool.eq_iff_iff, any]

namespace Rule

theorem pattern?_str (kind : Option MatchKind) (text : String) :
    pattern? kind (.str text) = some (.one (.compile text kind)) :=
  rfl

theorem pattern?_texts (kind : Option MatchKind) (texts : List String) :
    pattern? kind (.list (texts.map .str)) = some (.anyOf (texts.map (Needle.compile · kind))) := by
  rw [pattern?, needleTexts?_map_str, Option.map_some]

/-- A rule matches when its source stands for something, and the comparison of that is made and comes out true. -/
theorem Spelled.holds_iff {source : Source} {kind pattern : Field} {extra : List Field} {p : Pattern} {r : Rule}
    (spelled : Spelled source (kind :: pattern :: extra) r)
    (compiled : pattern? (ModeToken.ofField kind).kind? pattern = some p) (ctx : Context) (candidate : String) :
    r.holds ctx candidate = true ↔
      ∃ subject, source.subject? ctx candidate = some subject ∧ (ModeToken.ofField kind).compare subject p = .ok true := by
  cases spelled with
  | intro valid =>
    cases Option.some.inj ((pattern?_eq_some_iff.mpr valid).symm.trans compiled)
    rw [holds, holdsFor]
    cases source.subject? ctx candidate with
    | none => simp
    | some subject =>
      dsimp only
      cases answer : (ModeToken.ofField kind).compare subject p <;> simp [answer]

theorem Spelled.holds_filePath_iff {kind pattern : Field} {extra : List Field} {p : Pattern} {r : Rule}
    (spelled : Spelled .filePath (kind :: pattern :: extra) r)
    (compiled : pattern? (ModeToken.ofField kind).kind? pattern = some p) (ctx : Context) (candidate : String) :
    r.holds ctx candidate = true ↔ (ModeToken.ofField kind).compare candidate p = .ok true := by
  simp [spelled.holds_iff compiled, Source.subject?]

theorem Spelled.comparesWith {kind : Field} {text : String} {extra : List Field} {r : Rule}
    (spelled : Spelled .filePath (kind :: .str text :: extra) r) : r.ComparesWith kind text := by
  intro ctx candidate
  rw [spelled.holds_filePath_iff (pattern?_str _ text), compareText_eq_compare]

theorem Spelled.comparesWithAny {kind : Field} {texts : List String} {extra : List Field} {r : Rule}
    (spelled : Spelled .filePath (kind :: .list (texts.map .str) :: extra) r) : r.ComparesWithAny kind texts := by
  intro mode base known straight ctx candidate inhabited
  rw [spelled.holds_filePath_iff (pattern?_texts _ texts)]
  exact ModeToken.compare_anyOf_eq_ok_true_iff known straight inhabited texts

end Rule

/-! ## Rules on the file path -/

namespace Entry

variable {custom : List String} {kind pattern : Field} {e : Entry}

theorem spelled_of_read_filePath (wellFormed : read custom [.str "filePath", kind, pattern] = .ok e) :
    Rule.Spelled .filePath [kind, pattern] e.rule := by
  have noMode : ¬ (Field.str "filePath").OpensBare := Field.not_opensBare_of_ofText? (by decide)
  cases read_eq_ok_iff.mp wellFormed with
  | bare opens => exact absurd opens noMode
  | single _ rule => exact rule

theorem exists_read_filePath {p : Pattern} (unused : "filePath" ∉ custom)
    (compiled : Rule.pattern? (ModeToken.ofField kind).kind? pattern = some p) :
    ∃ r, read custom [.str "filePath", kind, pattern] = .ok (.single r) :=
  ⟨_, read_eq_ok_iff.mpr (.single (opensNamed_filePath unused) (.intro (Rule.pattern?_eq_some_iff.mp compiled)))⟩

/-- Every rule that is read is compiled for its kind. A rule on the file path with one text agrees with the
comparison with that text, and one with a list of texts with the comparisons with each; both are read unless
`filePath` is a tag of the policy. -/
theorem read_compares (custom : List String) (kind : Field) (text : String) (texts : List String) :
    (∀ e, read custom [.str "filePath", kind, .str text] = .ok e → e.rule.ComparesWith kind text) ∧
      (∀ e, read custom [.str "filePath", kind, .list (texts.map .str)] = .ok e → e.rule.ComparesWithAny kind texts) ∧
      (∀ fields e, read custom fields = .ok e → e.rule.WellCompiled) ∧
      ("filePath" ∉ custom →
        (∃ r, read custom [.str "filePath", kind, .str text] = .ok (.single r)) ∧
          ∃ r, read custom [.str "filePath", kind, .list (texts.map .str)] = .ok (.single r)) := by
  refine ⟨fun e wellFormed => ?_, fun e wellFormed => ?_, fun fields e wellFormed => ?_, fun unused => ⟨?_, ?_⟩⟩
  · exact (spelled_of_read_filePath wellFormed).comparesWith
  · exact (spelled_of_read_filePath wellFormed).comparesWithAny
  · obtain ⟨_, _, spelled⟩ := (read_eq_ok_iff.mp wellFormed).exists_rule
    exact spelled.wellCompiled
  · exact exists_read_filePath unused (Rule.pattern?_str _ text)
  · exact exists_read_filePath unused (Rule.pattern?_texts _ texts)

end Entry

end StreamPolicy
