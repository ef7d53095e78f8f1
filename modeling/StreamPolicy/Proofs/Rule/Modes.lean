import StreamPolicy.Proofs.Text.Search
import StreamPolicy.Rule.Mode

/-!
# Reading a mode

The text of a mode is the name of a kind, with `:not` behind it when the mode is negated. Reading
takes the name in front of the first colon and asks of the rest only whether it is `not`: a name with
anything else behind its colon is read as the kind, not negated.
-/

namespace StreamPolicy

namespace MatchKind

theorem ofName?_eq_some_iff {name : String} {kind : MatchKind} : ofName? name = some kind ↔ name = kind.name := by
  constructor
  · intro named
    unfold ofName? at named
    split at named
    next same => cases named; exact same
    split at named
    next same => cases named; exact same
    split at named
    next same => cases named; exact same
    split at named
    next same => cases named; exact same
    next => cases named
  · rintro rfl
    cases kind <;> rfl

theorem ofName?_name (kind : MatchKind) : ofName? kind.name = some kind :=
  ofName?_eq_some_iff.mpr rfl

theorem colon_not_mem_name (kind : MatchKind) : ':' ∉ kind.name.toList := by
  cases kind <;> decide

end MatchKind

namespace MatchMode

/-- A text of the grammar: the name of a kind, and `:not` behind it when the mode is negated. -/
inductive Spelled : String → MatchMode → Prop
  | plain (kind : MatchKind) : Spelled kind.name (.plain kind)
  | negated (kind : MatchKind) : Spelled (kind.name ++ ":" ++ negation) (.negated kind)

/-- The name of a kind with something else than the negation behind its colon. -/
inductive Misspelled : String → MatchKind → Prop
  | intro (kind : MatchKind) {suffix : String} (other : suffix ≠ negation) :
      Misspelled (kind.name ++ ":" ++ suffix) kind

variable {token : String} {kind : MatchKind} {mode : MatchMode}

theorem Spelled.display_eq (spelled : Spelled token mode) : mode.display = token := by
  cases spelled with
  | plain kind => rfl
  | negated kind => rfl

/-! ## Which texts are read -/

theorem ofText?_name (kind : MatchKind) : ofText? kind.name = some (.plain kind) := by
  rw [ofText?, Text.splitOnce?_eq_none_iff.mpr kind.colon_not_mem_name]
  simp [kind.ofName?_name]

theorem ofText?_suffixed (kind : MatchKind) (suffix : String) :
    ofText? (kind.name ++ ":" ++ suffix) = some ⟨kind, suffix = negation⟩ := by
  have split : Text.splitOnce? (kind.name ++ ":" ++ suffix) ':' = some (kind.name, suffix) := by
    rw [Text.splitOnce?_eq_some_iff]
    exact ⟨by simp, kind.colon_not_mem_name⟩
  rw [ofText?, split]
  simp [kind.ofName?_name]

theorem Spelled.ofText?_eq (spelled : Spelled token mode) : ofText? token = some mode := by
  cases spelled with
  | plain kind => exact ofText?_name kind
  | negated kind => simpa [MatchMode.negated] using ofText?_suffixed kind negation

theorem Misspelled.ofText?_eq (misspelled : Misspelled token kind) : ofText? token = some (.plain kind) := by
  cases misspelled with
  | @intro _ suffix other => simpa [MatchMode.plain, other] using ofText?_suffixed kind suffix

theorem Misspelled.colon_mem (misspelled : Misspelled token kind) : ':' ∈ token.toList := by
  cases misspelled with
  | intro _ _ => simp

/-- What is read is in the grammar, but for what may stand behind the colon. -/
theorem ofText?_eq_some_iff :
    ofText? token = some mode ↔
      Spelled token mode ∨ Misspelled token mode.kind ∧ mode = .plain mode.kind := by
  constructor
  · intro read
    rw [ofText?] at read
    cases split : Text.splitOnce? token ':' with
    | none =>
      simp only [split, Option.map_eq_some_iff, MatchKind.ofName?_eq_some_iff] at read
      obtain ⟨kind, rfl, rfl⟩ := read
      exact .inl (.plain kind)
    | some parts =>
      obtain ⟨name, suffix⟩ := parts
      simp only [split, Option.map_eq_some_iff, MatchKind.ofName?_eq_some_iff] at read
      obtain ⟨kind, rfl, rfl⟩ := read
      have whole : token = kind.name ++ ":" ++ suffix := by
        rw [← String.toList_inj]
        simpa using (Text.splitOnce?_eq_some_iff.mp split).1
      rw [whole]
      by_cases negated : suffix = negation
      · simp only [negated, decide_true]
        exact .inl (.negated kind)
      · simp only [negated, decide_false]
        exact .inr ⟨.intro kind negated, rfl⟩
  · rintro (spelled | ⟨misspelled, plain⟩)
    · exact spelled.ofText?_eq
    · rw [plain]
      exact misspelled.ofText?_eq

theorem ofField_str_eq_ok_iff : ofField (.str token) = .ok mode ↔ ofText? token = some mode := by
  rw [ofField]
  cases ofText? token <;> simp

theorem ofField_str_eq_error_iff : ofField (.str token) = .error (.unknownKind token) ↔ ofText? token = none := by
  rw [ofField]
  cases ofText? token <;> simp

/-- A misspelt text does not write the mode it is read as, nor any other. -/
theorem Misspelled.not_spelled (misspelled : Misspelled token kind) (mode : MatchMode) : ¬ Spelled token mode := by
  intro spelled
  have read : mode = .plain kind := Option.some_inj.mp (spelled.ofText?_eq.symm.trans misspelled.ofText?_eq)
  have whole : token = kind.name := by
    rw [← spelled.display_eq, read]
    rfl
  exact kind.colon_not_mem_name (whole ▸ misspelled.colon_mem)

/-! ## Reading as the grammar says -/

/-- What the grammar asks of the reading of one text. -/
structure ReadsAsGrammar (token : String) : Prop where
  accepted : (∃ mode, ofField (.str token) = .ok mode) ↔ ∃ mode, Spelled token mode
  shown : ∀ mode, ofField (.str token) = .ok mode → mode.display = token
  refused : (¬ ∃ mode, Spelled token mode) → ofField (.str token) = .error (.unknownKind token)

/-- A text is read as the grammar says unless it is the name of a kind with something else than the
negation behind its colon. -/
theorem readsAsGrammar_iff (token : String) : ReadsAsGrammar token ↔ ∀ kind, ¬ Misspelled token kind := by
  constructor
  · intro reads kind misspelled
    have read : ofField (.str token) = .ok (.plain kind) := ofField_str_eq_ok_iff.mpr misspelled.ofText?_eq
    obtain ⟨mode, spelled⟩ := reads.accepted.mp ⟨_, read⟩
    exact misspelled.not_spelled mode spelled
  · intro wellSpelled
    have agrees (mode : MatchMode) : ofField (.str token) = .ok mode ↔ Spelled token mode := by
      rw [ofField_str_eq_ok_iff, ofText?_eq_some_iff]
      exact or_iff_left fun misspelled => wellSpelled mode.kind misspelled.1
    refine ⟨exists_congr agrees, fun mode read => ((agrees mode).mp read).display_eq, fun unspelled => ?_⟩
    rw [ofField_str_eq_error_iff, Option.eq_none_iff_forall_ne_some]
    exact fun mode read => unspelled ⟨mode, (agrees mode).mp (ofField_str_eq_ok_iff.mpr read)⟩

/-- A misspelt negation is dropped: the text is read as the straight kind. -/
theorem not_readsAsGrammar_misspelt :
    ofField (.str "startsWith:nto") = .ok (.plain .startsWith) ∧ ¬ ReadsAsGrammar "startsWith:nto" := by
  have other : "nto" ≠ negation := by decide
  have misspelled : Misspelled "startsWith:nto" .startsWith := .intro .startsWith other
  have read : ofField (.str "startsWith:nto") = .ok (.plain .startsWith) :=
    ofField_str_eq_ok_iff.mpr misspelled.ofText?_eq
  refine ⟨read, fun reads => ?_⟩
  have shown : MatchKind.startsWith.name = "startsWith:nto" := reads.shown _ read
  exact absurd shown (by decide)

end MatchMode

end StreamPolicy
