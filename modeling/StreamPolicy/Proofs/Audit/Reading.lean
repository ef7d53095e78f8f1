import StreamPolicy.Audit.Reading
import StreamPolicy.Proofs.Json.Outline
import StreamPolicy.Proofs.Time.Reading

/-!
# Entries read back

The line of an entry is read as that entry. Only its details can stand in the way: they may nest too deep,
and a double may not be read back as it was.
-/

namespace StreamPolicy.Audit

open StreamPolicy.Json

/-! ## Identifiers -/

namespace EntryId

theorem digit?_digitChar (d : Fin 16) : digit? (Nat.digitChar d.val) = some d := by
  revert d
  decide

/-- A digit is neither a hyphen nor the start of a scheme or of braces. -/
theorem digitChar_ne (d : Fin 16) :
    Nat.digitChar d.val ≠ '-' ∧ Nat.digitChar d.val ≠ '\x7b' ∧ (Nat.digitChar d.val).toLower ≠ 'u' := by
  revert d
  decide

theorem mapM_digit?_digitChar (ds : List (Fin 16)) : (ds.map fun d => Nat.digitChar d.val).mapM digit? = some ds := by
  induction ds with
  | nil => rfl
  | cons d ds ih => simp [digit?_digitChar, ih]

theorem take_append_drop_add (n m : Nat) (cs : List Char) : (cs.drop n).take m ++ cs.drop (n + m) = cs.drop n := by
  rw [← List.drop_drop, List.take_append_drop]

/-- The digits are what is left without the hyphens. -/
theorem filter_hyphenated {cs : List Char} (plain : '-' ∉ cs) : (hyphenated cs).filter (· ≠ '-') = cs := by
  have kept {part : List Char} (inside : part ⊆ cs) : part.filter (· ≠ '-') = part :=
    List.filter_eq_self.mpr fun c member => decide_eq_true fun same => plain (same ▸ inside member)
  have first := kept (List.take_subset 8 cs)
  have last := kept (List.drop_subset 20 cs)
  have middle (n : Nat) := kept (fun c member => List.drop_subset n cs (List.take_subset 4 _ member))
  have hyphen : decide ('-' ≠ '-') = false := by decide
  simp only [hyphenated, List.filter_append, List.filter_cons, first, last, middle, hyphen, Bool.false_eq_true, if_false]
  simp only [List.append_assoc]
  rw [take_append_drop_add 16 4, take_append_drop_add 12 4, take_append_drop_add 8 4, List.take_append_drop]

theorem length_hyphenated {cs : List Char} (whole : cs.length = 32) : (hyphenated cs).length = 36 := by
  simp [hyphenated, whole]

theorem braced?_of_ne {c : Char} (other : c ≠ '\x7b') (cs : List Char) : braced? (c :: cs) = none := by
  unfold braced?
  split
  next same =>
    cases same
    exact absurd rfl other
  · rfl

theorem afterScheme?_of_ne {c : Char} (other : c.toLower ≠ 'u') (cs : List Char) : afterScheme? (c :: cs) = none := by
  have differ : ((c :: cs).take scheme.length).map Char.toLower ≠ scheme := by
    intro same
    exact other (Option.some.inj (congrArg List.head? same))
  rw [afterScheme?, if_neg differ]

/-- Five groups that start with a digit are read as groups. -/
theorem parseChars?_hyphenated {c : Char} {cs : List Char} (brace : c ≠ '\x7b') (letter : c.toLower ≠ 'u')
    (whole : (c :: cs).length = 32) : parseChars? (hyphenated (c :: cs)) = ofHyphenated? (hyphenated (c :: cs)) := by
  have long : (hyphenated (c :: cs)).length ≠ 32 := by
    rw [length_hyphenated whole]
    decide
  obtain ⟨rest, start⟩ : ∃ rest, hyphenated (c :: cs) = c :: rest := ⟨_, rfl⟩
  rw [start] at long ⊢
  rw [parseChars?, braced?_of_ne brace, afterScheme?_of_ne letter]
  exact if_neg long

/-- An identifier is read back. -/
theorem parse?_text (id : EntryId) : parse? id.text = some id := by
  obtain ⟨digits, whole⟩ := id
  have long : (digits.map fun d => Nat.digitChar d.val).length = 32 := by rw [List.length_map, whole]
  have plain : '-' ∉ digits.map fun d => Nat.digitChar d.val := by
    intro member
    obtain ⟨d, -, same⟩ := List.mem_map.mp member
    exact (digitChar_ne d).1 same
  have back : ofPlain? (digits.map fun d => Nat.digitChar d.val) = some ⟨digits, whole⟩ := by
    rw [ofPlain?, mapM_digit?_digitChar, Option.bind_some, ofDigits?, dif_pos whole]
  have read : ofHyphenated? (hyphenated (digits.map fun d => Nat.digitChar d.val)) = some ⟨digits, whole⟩ := by
    simp only [ofHyphenated?, filter_hyphenated plain, if_true, back]
  rw [parse?, text, String.toList_ofList, chars]
  cases digits with
  | nil => cases whole
  | cons d ds =>
    obtain ⟨-, brace, letter⟩ := digitChar_ne d
    rw [List.map_cons] at long read ⊢
    rw [parseChars?_hyphenated brace letter long, read]

end EntryId

theorem EventKind.ofName?_name (k : EventKind) : ofName? k.name = some k := by
  cases k <;> decide

theorem EventKind.ofJson?_name (k : EventKind) : ofJson? (.str k.name) = some k := by
  rw [ofJson?, Value.name?]
  exact ofName?_name k

theorem Origin.ofJson?_toJson (o : Origin) : ofJson? o.toJson = some o := by
  obtain ⟨component, client, remoteAddr⟩ := o
  cases client <;> cases remoteAddr <;> rfl

theorem Verdict.ofJson?_toJson (v : Verdict) : ofJson? v.toJson = some v := by
  obtain ⟨decision, matched, stage⟩ := v
  cases matched <;> rfl

theorem Verdict.orNull?_toJson (v : Verdict) : Value.orNull? ofJson? v.toJson = some (some v) := by
  show (ofJson? v.toJson).map some = _
  rw [ofJson?_toJson, Option.map_some]

/-- An entry is what its value writes. -/
theorem Entry.ofJson?_toJson {e : Entry} (ordered : e.event.details.sorted = e.event.details) :
    ofJson? e.toJson = some e := by
  obtain ⟨id, time, kind, origin, details, verdict⟩ := e
  replace ordered : details.sorted = details := ordered
  cases verdict with
  | none | some =>
    simp [ofJson?, toJson, Event.members, memberOf, Record.ofValue?, Record.eachOnce, Record.required?, Record.optional?,
      Record.get?, Members.get?, Value.str?, EntryId.parse?_text, Time.Timestamp.parse?_text, EventKind.ofJson?_name,
      Origin.ofJson?_toJson, Verdict.orNull?_toJson, ordered]

/-! ## Lines -/

theorem reads_str (depth : Nat) (s : String) : Outline.whole.Reads depth (.str s) :=
  Outline.reads_whole trivial

theorem takes_memberOf {fields : List (String × Outline)} {depth : Nat} {key : String} {f : String × Outline}
    (found : fields.find? (fun f => f.1 = key) = some f) {v? : Option Value} (reads : ∀ v ∈ v?, f.2.Reads depth v) :
    Outline.Takes fields depth (memberOf key v?) := by
  cases v? with
  | none => exact Outline.takes_nil fields depth
  | some v => exact (Outline.takes_nil fields depth).cons found (reads v rfl)

theorem takes_text {fields : List (String × Outline)} {key : String} {name : String}
    (found : fields.find? (fun f => f.1 = key) = some (name, .whole)) (depth : Nat) (s? : Option String) :
    Outline.Takes fields depth (memberOf key (s?.map .str)) := by
  apply takes_memberOf found
  intro v written
  obtain ⟨s, -, rfl⟩ := Option.map_eq_some_iff.mp written
  exact reads_str depth s

theorem Origin.reads_toJson (depth : Nat) (o : Origin) : (Outline.ofNames fieldNames).Reads (depth + 1) o.toJson :=
  Outline.reads_members
    (((takes_text rfl depth o.client).cons rfl (reads_str depth o.component)).append (takes_text rfl depth o.remoteAddr))

theorem Verdict.reads_toJson (depth : Nat) (v : Verdict) : (Outline.ofNames fieldNames).Reads (depth + 1) v.toJson :=
  Outline.reads_members
    (((takes_text rfl depth v.matched).cons rfl (reads_str depth v.decision)).append
      ((Outline.takes_nil _ depth).cons rfl (reads_str depth v.stage)))

/-- The details of an entry can be read back: the members of their objects are in order, they do not nest too deep, and
their numbers are read back. -/
structure Entry.Legible (e : Entry) : Prop where
  ordered : e.event.details.sorted = e.event.details
  /-- The line of the entry opens one level around its details. -/
  details : e.event.details.Legible (maxDepth - 1)

theorem Entry.reads_toJson {e : Entry} (legible : e.Legible) : outline.Reads maxDepth e.toJson := by
  have details : Outline.whole.Reads 126 e.event.details := Outline.reads_whole legible.details
  have verdict : ∀ v ∈ e.event.verdict.map Verdict.toJson, (Outline.ofNames Verdict.fieldNames).Reads 126 v := by
    intro v written
    obtain ⟨w, -, rfl⟩ := Option.map_eq_some_iff.mp written
    exact w.reads_toJson 125
  have event : Outline.Takes _ 126 e.event.members → outline.Reads maxDepth e.toJson := fun takes =>
    Outline.reads_members ((takes.cons rfl (reads_str 126 e.time.text)).cons rfl (reads_str 126 e.id.text))
  apply event
  refine Outline.Takes.append ?_ (takes_memberOf rfl verdict)
  exact (((Outline.takes_nil _ 126).cons rfl details).cons rfl (e.event.origin.reads_toJson 125)).cons rfl
    (reads_str 126 e.event.kind.name)

/-- The line of an entry is read as that entry. -/
theorem Entry.parse?_chars {e : Entry} (legible : e.Legible) : parse? (String.ofList e.chars) = some e := by
  have taken : outline.parse? (String.ofList e.chars) = some e.toJson := Outline.parse?_compact (reads_toJson legible)
  rw [parse?, taken, Option.bind_some, ofJson?_toJson legible.ordered]

end StreamPolicy.Audit
