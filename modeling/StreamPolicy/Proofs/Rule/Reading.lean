import StreamPolicy.Proofs.Rule.Grammar

/-!
# What reading a rule list keeps

Every entry of a rule list has the source that some text names; a bare rule has the one named
`filePath`. The route that a bare rule is given does not change the rule.
-/

namespace StreamPolicy

theorem Entry.rule_of_withRoute? {custom : List String} {e e' : Entry} (kept : e.withRoute? custom = some e') :
    e'.rule = e.rule := by
  cases e with
  | bare r =>
    cases extra : r.extra with
    | nil =>
      simp only [withRoute?, extra, Option.some.injEq] at kept
      rw [← kept]
    | cons target rest =>
      simp only [withRoute?, extra, Option.map_eq_some_iff] at kept
      obtain ⟨route, _, rfl⟩ := kept
      rfl
  | _ => cases kept; rfl

variable [RegexEngine]

theorem Rule.Spelled.source_eq {source : Source} {fields : List Field} {r : Rule}
    (spelled : Rule.Spelled source fields r) : r.source = source := by
  cases spelled
  rfl

/-- The rule of an entry is written by the fields behind the text that names its source. -/
theorem Entry.Spelled.exists_rule {custom : List String} {fields : List Field} {e : Entry}
    (spelled : Entry.Spelled custom fields e) : ∃ text rest, Rule.Spelled (.ofText text) rest e.rule := by
  cases spelled with
  | bare _ rule => exact ⟨"filePath", _, rule⟩
  | taggedAlone _ _ rule => exact ⟨_, _, rule⟩
  | taggedTogether _ _ rule => exact ⟨_, _, rule⟩
  | single _ rule => exact ⟨_, _, rule⟩
  | grouped _ rule => exact ⟨_, _, rule⟩

/-- An item of a rule list writes an entry when it is a list of fields that reading accepts. -/
theorem Entry.ofField?_eq_some_iff {custom : List String} {f : Field} {e : Entry} :
    ofField? custom f = some e ↔ ∃ fields, f = .list fields ∧ read custom fields = .ok e := by
  cases f with
  | list fields =>
    rw [ofField?]
    cases wellFormed : read custom fields <;> simp [Except.toOption, wellFormed]
  | _ => simp [ofField?]

theorem exists_spelled_of_mem_readEntries {custom : List String} {raw : List Field} {e : Entry}
    (member : e ∈ readEntries custom raw) : ∃ fields, .list fields ∈ raw ∧ Entry.Spelled custom fields e := by
  obtain ⟨field, listed, parsed⟩ := List.mem_filterMap.mp member
  obtain ⟨fields, rfl, accepted⟩ := Entry.ofField?_eq_some_iff.mp parsed
  exact ⟨fields, listed, Entry.read_eq_ok_iff.mp accepted⟩

/-- The source of an entry that routes requests is named by a text. -/
theorem source_of_mem_resolveRoutes {custom : List String} {raw : List Field} {e : Entry}
    (member : e ∈ resolveRoutes custom (readEntries custom raw)) : ∃ text, e.rule.source = .ofText text := by
  obtain ⟨e₀, listed, kept⟩ := List.mem_filterMap.mp member
  obtain ⟨fields, -, spelled⟩ := exists_spelled_of_mem_readEntries listed
  obtain ⟨text, rest, rule⟩ := spelled.exists_rule
  rw [Entry.rule_of_withRoute? kept]
  exact ⟨text, rule.source_eq⟩

end StreamPolicy
