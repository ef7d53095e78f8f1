import StreamPolicy.Proofs.Route.Provenance
import StreamPolicy.Proofs.Rule.FirstMatch
import StreamPolicy.Proofs.Rule.Reading

/-!
# Rules whose texts are no patterns

A text that is no pattern matches nothing. A rule that compares with such texts alone is silent: it
never matches, and neither a group nor a decision comes from it. Negation takes this away: a negated
rule of that kind matches every subject that is not empty. This holds for every engine that compiles
patterns.
-/

namespace StreamPolicy

/-! ## What silence is -/

/-- The rule never matches, and nothing comes from it. -/
structure Rule.Silent (r : Rule) : Prop where
  unmatched : ∀ ctx source candidate, r.holdsFor ctx source candidate = false
  noGroup : ∀ ctx candidate members, r ∈ members → groupHolds ctx members candidate = false
  noMatch : ∀ ctx entries candidate about hit e, firstMatch? ctx entries candidate about = some hit →
    hit.StandsFor entries e → e.rule ≠ r
  noOutcome : ∀ (p : RoutePolicy) ctx q e, p.StandsFor ctx q (p.decide ctx q) e → e.rule ≠ r

theorem Rule.silent_of_unmatched {r : Rule} (unmatched : ∀ ctx source candidate, r.holdsFor ctx source candidate = false) :
    r.Silent := by
  refine ⟨unmatched, ?_, ?_, ?_⟩
  · intro ctx candidate members member
    rw [Bool.eq_false_iff]
    intro together
    have holds := (groupHolds_iff.mp together).2 r member
    exact Bool.false_ne_true ((unmatched ctx r.source candidate).symm.trans holds)
  · rintro ctx entries candidate about hit e found stands rfl
    have matched := matchesAbout_of_firstMatch? found stands
    exact Bool.false_ne_true ((unmatched ctx (e.sourceAbout about) candidate).symm.trans matched)
  · rintro p ctx q e stands rfl
    have matched := RoutePolicy.matches_of_standsFor stands
    exact Bool.false_ne_true ((unmatched ctx e.rule.source q.candidate).symm.trans matched)

theorem MatchMode.accepts_of_unmatched {mode : MatchMode} {subject : String} {p : Pattern}
    (unmatched : ∀ n ∈ p.needles, n.matchesSubject mode.kind subject = false) :
    mode.accepts subject p = mode.negate := by
  have none : p.needles.any (·.matchesSubject mode.kind subject) = false := by
    simpa [List.any_eq_false] using unmatched
  rw [MatchMode.accepts, none]
  cases mode.negate <;> rfl

/-! ## Broken rules -/

section
variable [RegexEngine]

/-- The rule compares with patterns, and none of its texts is one. -/
structure Rule.Broken (r : Rule) (mode : MatchMode) : Prop where
  known : r.mode = .known mode
  regex : mode.kind = .regex
  noPattern : ∀ n ∈ r.pattern.needles, RegexEngine.compile? n.text = none

theorem Needle.compile_broken {t : String} (broken : RegexEngine.compile? t = none) : compile t (some .regex) = .invalid t := by
  rw [compile, if_pos rfl, broken]

/-- A broken rule matches what its negation makes of no match: nothing, or every subject that is not
empty. -/
theorem Rule.Spelled.holdsFor_broken_iff {s : Source} {fields : List Field} {r : Rule} {mode : MatchMode}
    (spelled : Rule.Spelled s fields r) (broken : r.Broken mode) (ctx : Context) (source : Source)
    (candidate : String) :
    r.holdsFor ctx source candidate = true ↔
      mode.negate = true ∧ ∃ subject, source.subject? ctx candidate = some subject ∧ subject ≠ "" := by
  have accepts (subject : String) : mode.accepts subject r.pattern = mode.negate := by
    apply MatchMode.accepts_of_unmatched
    intro n member
    cases spelled with
    | @intro kind pattern extra p valid =>
      have regex : (ModeToken.ofField kind).kind? = some .regex := by
        rw [show ModeToken.ofField kind = _ from broken.known]
        exact congrArg some broken.regex
      rw [valid.eq_compile member, regex, Needle.compile_broken (broken.noPattern n member)]
      rfl
  rw [Rule.holdsFor, broken.known]
  cases source.subject? ctx candidate with
  | none => simp
  | some subject => simp [ModeToken.compare, accepts, and_comm]

/-- A rule that was read and whose texts are all no patterns is silent exactly when it is not
negated. -/
theorem Entry.silent_iff_plain {custom : List String} {fields : List Field} {e : Entry} {mode : MatchMode}
    (wellFormed : read custom fields = .ok e) (broken : e.rule.Broken mode) :
    e.rule.Silent ↔ mode.negate = false := by
  obtain ⟨_, _, spelled⟩ := (read_eq_ok_iff.mp wellFormed).exists_rule
  constructor
  · intro silent
    rw [Bool.eq_false_iff]
    intro negated
    have holds : e.rule.holdsFor Context.empty .filePath "/" = true :=
      (spelled.holdsFor_broken_iff broken _ _ _).mpr ⟨negated, "/", rfl, by decide⟩
    exact Bool.false_ne_true ((silent.unmatched _ _ _).symm.trans holds)
  · intro plain
    apply Rule.silent_of_unmatched
    intro ctx source candidate
    rw [Bool.eq_false_iff]
    intro holds
    have negated := ((spelled.holdsFor_broken_iff broken _ _ _).mp holds).1
    exact Bool.false_ne_true (plain.symm.trans negated)

end

/-- A class that is not closed, as the one text of a rule on the file path. -/
def Rule.unclosedClass (negate : Bool) : Rule :=
  ⟨.filePath, .known ⟨.regex, negate⟩, .one (.invalid "["), []⟩

theorem Rule.broken_unclosedClass (negate : Bool) : (unclosedClass negate).Broken ⟨.regex, negate⟩ := by
  refine ⟨rfl, rfl, ?_⟩
  intro n member
  rw [List.mem_singleton.mp member]
  decide +kernel

/-- The rule of a class that is not closed is silent. -/
theorem Entry.silent_unclosedClass :
    read [] [.str "filePath", .str "match", .str "["] = .ok (.single (.unclosedClass false)) ∧
      (Rule.unclosedClass false).Broken (.plain .regex) ∧ (Rule.unclosedClass false).Silent := by
  have wellFormed : read [] [.str "filePath", .str "match", .str "["] = .ok (.single (.unclosedClass false)) := rfl
  exact ⟨wellFormed, Rule.broken_unclosedClass false,
    (silent_iff_plain wellFormed (Rule.broken_unclosedClass false)).mpr rfl⟩

/-- Negated, the same rule matches. -/
theorem Entry.not_silent_negated :
    ¬ ∀ [RegexEngine] (custom : List String) (fields : List Field) (e : Entry) (mode : MatchMode),
      read custom fields = .ok e → e.rule.Broken mode → e.rule.Silent := by
  intro always
  have silent : (Rule.unclosedClass true).Silent :=
    always [] [.str "filePath", .str "match:not", .str "["] (.single (.unclosedClass true)) _ rfl
      (Rule.broken_unclosedClass true)
  have unmatched := silent.unmatched Context.empty .filePath "/a"
  revert unmatched
  decide +kernel

end StreamPolicy
