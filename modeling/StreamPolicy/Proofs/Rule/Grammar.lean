import Mathlib.Data.List.Forall2
import StreamPolicy.Rule.Reading

/-!
# The grammar of raw rules

Which lists of fields write an entry, said by the fields alone: what the first one may be, how many
there are, and where source, mode and pattern stand. Reading accepts these lists and no others, puts
every field where the grammar has it, and otherwise points at a field that is there.
-/

namespace StreamPolicy

/-! ## The grammar -/

/-- A first field that opens a bare rule: an integer of any value, or a text that writes a mode. -/
inductive Field.OpensBare : Field → Prop
  | code (n : Int) : OpensBare (.int n)
  | mode {token : String} {mode : MatchMode} (written : MatchMode.ofField (.str token) = .ok mode) :
      OpensBare (.str token)

/-- A text or an integer, with the text that a rule compares with. -/
inductive Field.SpellsText : Field → String → Prop
  | str (s : String) : SpellsText (.str s) s
  | int (n : Int) : SpellsText (.int n) (Text.ofInt n)

section
variable [RegexEngine]

/-- A field that writes a pattern: a text, an integer, or a list of nothing else. -/
inductive Field.SpellsPattern (kind : Option MatchKind) : Field → Pattern → Prop
  | one {f : Field} {t : String} (text : f.SpellsText t) : SpellsPattern kind f (.one (Needle.compile t kind))
  | anyOf {items : List Field} {ts : List String} (texts : List.Forall₂ Field.SpellsText items ts) :
      SpellsPattern kind (.list items) (.anyOf (ts.map (Needle.compile · kind)))

/-- A mode, a pattern and further fields, as a rule that looks at a source. -/
inductive Rule.Spelled (source : Source) : List Field → Rule → Prop
  | intro {kind pattern : Field} {extra : List Field} {p : Pattern}
      (valid : pattern.SpellsPattern (ModeToken.ofField kind).kind? p) :
      Spelled source (kind :: pattern :: extra) ⟨source, .ofField kind, p, extra⟩

/-- A tag with its route: a custom tag is one that no policy knows by itself. -/
inductive Decision.Tagged (custom : List String) : String → Decision → Prop
  | proxy : Tagged custom "proxy" .proxy
  | redirect : Tagged custom "redirect" .redirect
  | block : Tagged custom "block" .block
  | custom {tag : String} (unknown : tag ∉ Decision.builtinTags) (listed : tag ∈ custom) :
      Tagged custom tag (.custom tag)

/-- A text that is neither a mode nor a tag, so that it stands for a source or a group. -/
structure Entry.OpensNamed (custom : List String) (head : String) : Prop where
  noMode : ¬ (Field.str head).OpensBare
  noTag : ∀ route, ¬ Decision.Tagged custom head route

/-- The lists of fields that write an entry. -/
inductive Entry.Spelled (custom : List String) : List Field → Entry → Prop
  /-- Mode, pattern and further fields. -/
  | bare {kind : Field} {rest : List Field} {r : Rule} (opens : kind.OpensBare)
      (rule : Rule.Spelled .filePath (kind :: rest) r) : Spelled custom (kind :: rest) (.bare r)
  /-- Tag, source, mode and pattern. -/
  | taggedAlone {tag source : String} {kind pattern : Field} {route : Decision} {r : Rule}
      (noMode : ¬ (Field.str tag).OpensBare) (tagged : Decision.Tagged custom tag route)
      (rule : Rule.Spelled (.ofText source) [kind, pattern] r) :
      Spelled custom [.str tag, .str source, kind, pattern] (.tagged route none r)
  /-- Tag, group, source, mode, pattern and further fields. -/
  | taggedTogether {tag group source : String} {kind pattern : Field} {extra : List Field} {route : Decision}
      {r : Rule} (noMode : ¬ (Field.str tag).OpensBare) (tagged : Decision.Tagged custom tag route)
      (rule : Rule.Spelled (.ofText source) (kind :: pattern :: extra) r) :
      Spelled custom (.str tag :: .str group :: .str source :: kind :: pattern :: extra)
        (.tagged route (some group) r)
  /-- Source, mode and pattern. -/
  | single {source : String} {kind pattern : Field} {r : Rule} (named : OpensNamed custom source)
      (rule : Rule.Spelled (.ofText source) [kind, pattern] r) :
      Spelled custom [.str source, kind, pattern] (.single r)
  /-- Group, source, mode, pattern and further fields. -/
  | grouped {group source : String} {kind pattern : Field} {extra : List Field} {r : Rule}
      (named : OpensNamed custom group)
      (rule : Rule.Spelled (.ofText source) (kind :: pattern :: extra) r) :
      Spelled custom (.str group :: .str source :: kind :: pattern :: extra) (.grouped group r)

end

/-- What an error says about some fields is so: how many there are, and what stands at a place. -/
def ShapeError.Describes (fields : List Field) : ShapeError → Prop
  | .empty => fields = []
  | .tooShort len min => len = fields.length ∧ len < min
  | .unexpectedField index _ found => ∃ f, fields[index]? = some f ∧ found = f.display

/-! ## First fields -/

theorem MatchMode.ofText?_isSome_iff (token : String) :
    (MatchMode.ofText? token).isSome = true ↔ (Field.str token).OpensBare := by
  constructor
  · intro known
    obtain ⟨mode, written⟩ := Option.isSome_iff_exists.mp known
    have names : MatchMode.ofField (.str token) = .ok mode := by rw [MatchMode.ofField, written]
    exact .mode names
  · intro opens
    cases opens with
    | mode written =>
      rw [MatchMode.ofField] at written
      cases known : MatchMode.ofText? token with
      | some mode => rfl
      | none =>
        rw [known] at written
        cases written

theorem Field.not_opensBare_of_ofText? {token : String} (unknown : MatchMode.ofText? token = none) :
    ¬ (Field.str token).OpensBare := by
  rw [← MatchMode.ofText?_isSome_iff, unknown]
  exact Bool.false_ne_true

theorem Decision.ofTag?_eq_some_iff {custom : List String} {tag : String} {route : Decision} :
    Decision.ofTag? tag custom = some route ↔ Tagged custom tag route := by
  constructor
  · intro named
    unfold Decision.ofTag? at named
    split at named
    next same => cases named; rw [same]; exact .proxy
    next notProxy =>
      split at named
      next same => cases named; rw [same]; exact .redirect
      next notRedirect =>
        split at named
        next same => cases named; rw [same]; exact .block
        next notBlock =>
          split at named
          next listed =>
            cases named
            exact .custom (by simp [builtinTags, notProxy, notRedirect, notBlock]) listed
          next => cases named
  · intro tagged
    cases tagged with
    | proxy => rfl
    | redirect => rfl
    | block => rfl
    | custom unknown listed =>
      simp only [builtinTags, List.mem_cons, List.not_mem_nil, or_false, not_or] at unknown
      simp [Decision.ofTag?, unknown, listed]

theorem Decision.Tagged.unique {custom : List String} {tag : String} {route route' : Decision}
    (tagged : Tagged custom tag route) (tagged' : Tagged custom tag route') : route = route' := by
  rw [← Decision.ofTag?_eq_some_iff] at tagged tagged'
  exact Option.some.inj (tagged.symm.trans tagged')

theorem Decision.ofTag?_eq_none_iff {custom : List String} {tag : String} :
    Decision.ofTag? tag custom = none ↔ ∀ route, ¬ Tagged custom tag route := by
  simp only [Option.eq_none_iff_forall_ne_some, ne_eq, ofTag?_eq_some_iff]

theorem Entry.opensNamed_filePath {custom : List String} (unused : "filePath" ∉ custom) : OpensNamed custom "filePath" := by
  refine ⟨Field.not_opensBare_of_ofText? (by decide), ?_⟩
  rw [← Decision.ofTag?_eq_none_iff]
  simp [Decision.ofTag?, unused]

/-! ## Texts -/

namespace Rule

theorem needleText?_eq_some_iff {f : Field} {t : String} : needleText? f = some t ↔ f.SpellsText t := by
  constructor
  · intro written
    cases f with
    | str s => cases written; exact .str _
    | int n => cases written; exact .int n
    | list items => cases written
    | other v => cases written
  · rintro (_ | _) <;> rfl

theorem needleTexts?_eq_some_iff {fields : List Field} {ts : List String} :
    needleTexts? fields = some ts ↔ List.Forall₂ Field.SpellsText fields ts := by
  induction fields generalizing ts with
  | nil => simp [needleTexts?, eq_comm]
  | cons f fields ih =>
    rw [needleTexts?, List.forall₂_cons_left_iff]
    constructor
    · intro written
      split at written
      next t ts' first later =>
        cases written
        exact ⟨t, ts', needleText?_eq_some_iff.mp first, ih.mp later, rfl⟩
      next => cases written
    · rintro ⟨t, ts', first, later, rfl⟩
      rw [needleText?_eq_some_iff.mpr first, ih.mpr later]

theorem readText_eq_ok_iff {index : Nat} {expected : String} {f : Field} {s : String} :
    readText index expected f = .ok s ↔ f = .str s := by
  cases f <;> simp [readText]

theorem describes_of_readText {fields : List Field} {index : Nat} {expected : String} {f : Field}
    {err : ShapeError} (place : fields[index]? = some f) (failed : readText index expected f = .error err) :
    err.Describes fields := by
  unfold readText at failed
  split at failed
  next => cases failed
  next => cases failed; exact ⟨f, place, rfl⟩

end Rule

namespace Entry

theorem map_eq_ok_iff {ε α β : Type} {f : α → β} {x : Except ε α} {b : β} :
    x.map f = .ok b ↔ ∃ a, x = .ok a ∧ f a = b := by
  cases x with
  | error e => simp [Except.map]
  | ok a => simp [Except.map]

theorem map_eq_error_iff {ε α β : Type} {f : α → β} {x : Except ε α} {err : ε} :
    x.map f = .error err ↔ x = .error err := by
  cases x <;> simp [Except.map]

end Entry

section
variable [RegexEngine]

/-! ## Patterns -/

theorem Needle.text_compile (t : String) (kind : Option MatchKind) : (compile t kind).text = t := by
  unfold compile
  split
  · split <;> rfl
  · rfl

/-- Every needle of a pattern is its own text compiled. -/
theorem Field.SpellsPattern.eq_compile {kind : Option MatchKind} {f : Field} {p : Pattern}
    (spelled : f.SpellsPattern kind p) {n : Needle} (member : n ∈ p.needles) : n = Needle.compile n.text kind := by
  cases spelled with
  | one text =>
    rw [List.mem_singleton.mp member, Needle.text_compile]
  | anyOf texts =>
    obtain ⟨t, _, rfl⟩ := List.mem_map.mp member
    rw [Needle.text_compile]

namespace Rule

theorem pattern?_eq_some_iff {kind : Option MatchKind} {f : Field} {p : Pattern} :
    pattern? kind f = some p ↔ f.SpellsPattern kind p := by
  constructor
  · intro written
    cases f with
    | list items =>
      obtain ⟨ts, texts, rfl⟩ := Option.map_eq_some_iff.mp written
      exact .anyOf (needleTexts?_eq_some_iff.mp texts)
    | _ =>
      simp only [pattern?, Option.map_eq_some_iff] at written
      obtain ⟨t, text, rfl⟩ := written
      exact .one (needleText?_eq_some_iff.mp text)
  · intro valid
    cases valid with
    | one text =>
      cases text with
      | str s => rfl
      | int n => rfl
    | anyOf texts => rw [pattern?, needleTexts?_eq_some_iff.mpr texts, Option.map_some]

theorem readPattern_eq_ok_iff {index : Nat} {kind : Option MatchKind} {f : Field} {p : Pattern} :
    readPattern index kind f = .ok p ↔ f.SpellsPattern kind p := by
  rw [← pattern?_eq_some_iff, readPattern]
  cases pattern? kind f <;> simp

/-! ## Rules -/

theorem readBare_eq_ok_iff {fields : List Field} {r : Rule} :
    readBare fields = .ok r ↔ Rule.Spelled .filePath fields r := by
  constructor
  · intro read
    unfold readBare at read
    split at read
    next kind pattern extra =>
      dsimp only at read
      split at read
      next => cases read
      next p valid => cases read; exact .intro (readPattern_eq_ok_iff.mp valid)
    next => cases read
  · intro spelled
    cases spelled with
    | intro valid => simp only [readBare, readPattern_eq_ok_iff.mpr valid]

theorem readAt_eq_ok_iff {len index : Nat} {fields : List Field} {r : Rule} :
    readAt len index fields = .ok r ↔
      ∃ source rest, fields = .str source :: rest ∧ Rule.Spelled (.ofText source) rest r := by
  constructor
  · intro read
    unfold readAt at read
    split at read
    next first kind pattern extra =>
      split at read
      next => cases read
      next source text =>
        dsimp only at read
        split at read
        next => cases read
        next p valid =>
          cases read
          rw [readText_eq_ok_iff.mp text]
          exact ⟨source, _, rfl, .intro (readPattern_eq_ok_iff.mp valid)⟩
    next => cases read
  · rintro ⟨source, rest, rfl, spelled⟩
    cases spelled with
    | intro valid => simp only [readAt, readText, readPattern_eq_ok_iff.mpr valid]

end Rule

/-! ## Entries -/

namespace Entry

theorem readTagged_eq_ok_iff {custom : List String} {len : Nat} {tag : String} {route : Decision} {rest : List Field}
    {e : Entry} (noMode : ¬ (Field.str tag).OpensBare) (tagged : Decision.Tagged custom tag route) :
    readTagged len route rest = .ok e ↔ Spelled custom (.str tag :: rest) e := by
  constructor
  · intro read
    unfold readTagged at read
    split at read
    next a b c =>
      obtain ⟨r, rule, rfl⟩ := map_eq_ok_iff.mp read
      obtain ⟨source, _, fields, spelled⟩ := Rule.readAt_eq_ok_iff.mp rule
      cases fields
      exact .taggedAlone noMode tagged spelled
    next first a b c extra _ =>
      split at read
      next => cases read
      next group text =>
        obtain ⟨r, rule, rfl⟩ := map_eq_ok_iff.mp read
        obtain ⟨source, _, fields, spelled⟩ := Rule.readAt_eq_ok_iff.mp rule
        cases fields
        rw [Rule.readText_eq_ok_iff.mp text]
        exact .taggedTogether noMode tagged spelled
    next => cases read
  · intro spelled
    cases spelled with
    | bare opens => exact absurd opens noMode
    | taggedAlone _ tagged' rule =>
      cases tagged.unique tagged'
      exact map_eq_ok_iff.mpr ⟨_, Rule.readAt_eq_ok_iff.mpr ⟨_, _, rfl, rule⟩, rfl⟩
    | taggedTogether _ tagged' rule =>
      cases tagged.unique tagged'
      exact map_eq_ok_iff.mpr ⟨_, Rule.readAt_eq_ok_iff.mpr ⟨_, _, rfl, rule⟩, rfl⟩
    | single named => exact absurd tagged (named.noTag route)
    | grouped named => exact absurd tagged (named.noTag route)

theorem read_cons_of_opens {custom : List String} {first : Field} (opens : first.OpensBare) (rest : List Field) :
    read custom (first :: rest) = (Rule.readBare (first :: rest)).map .bare := by
  cases opens with
  | code n => rfl
  | mode written =>
    unfold read
    exact if_pos ((MatchMode.ofText?_isSome_iff _).mpr (.mode written))

theorem read_cons_of_tagged {custom : List String} {tag : String} {route : Decision}
    (noMode : ¬ (Field.str tag).OpensBare) (tagged : Decision.Tagged custom tag route) (rest : List Field) :
    read custom (.str tag :: rest) = readTagged (rest.length + 1) route rest := by
  have modeless := mt (MatchMode.ofText?_isSome_iff tag).mp noMode
  unfold read
  simp only [modeless, Decision.ofTag?_eq_some_iff.mpr tagged, List.length_cons]
  rfl

/-- What reading does with a list whose first field is a source or a group. -/
def readNamed (head : String) (rest : List Field) : Except ShapeError Entry :=
  match rest with
  | [_, _] => (Rule.readAt (rest.length + 1) 0 (.str head :: rest)).map .single
  | _ :: _ :: _ :: _ => (Rule.readAt (rest.length + 1) 1 rest).map (.grouped head)
  | _ => .error (.tooShort (rest.length + 1) 3)

theorem read_cons_of_named {custom : List String} {head : String} (named : OpensNamed custom head) (rest : List Field) :
    read custom (.str head :: rest) = readNamed head rest := by
  have modeless := mt (MatchMode.ofText?_isSome_iff head).mp named.noMode
  unfold read
  simp only [modeless, Decision.ofTag?_eq_none_iff.mpr named.noTag, List.length_cons]
  rfl

theorem readNamed_eq_ok_iff {custom : List String} {head : String} (named : OpensNamed custom head)
    {rest : List Field} {e : Entry} : readNamed head rest = .ok e ↔ Spelled custom (.str head :: rest) e := by
  constructor
  · intro read
    unfold readNamed at read
    split at read
    next kind pattern =>
      obtain ⟨r, rule, rfl⟩ := map_eq_ok_iff.mp read
      obtain ⟨source, _, fields, spelled⟩ := Rule.readAt_eq_ok_iff.mp rule
      cases fields
      exact .single named spelled
    next source kind pattern extra =>
      obtain ⟨r, rule, rfl⟩ := map_eq_ok_iff.mp read
      obtain ⟨source, _, fields, spelled⟩ := Rule.readAt_eq_ok_iff.mp rule
      cases fields
      exact .grouped named spelled
    next => cases read
  · intro spelled
    cases spelled with
    | bare opens => exact absurd opens named.noMode
    | taggedAlone _ tagged => exact absurd tagged (named.noTag _)
    | taggedTogether _ tagged => exact absurd tagged (named.noTag _)
    | single _ rule => exact map_eq_ok_iff.mpr ⟨_, Rule.readAt_eq_ok_iff.mpr ⟨_, _, rfl, rule⟩, rfl⟩
    | grouped _ rule => exact map_eq_ok_iff.mpr ⟨_, Rule.readAt_eq_ok_iff.mpr ⟨_, _, rfl, rule⟩, rfl⟩

theorem readBare_map_eq_ok_iff {custom : List String} {first : Field} (opens : first.OpensBare) {rest : List Field}
    {e : Entry} : (Rule.readBare (first :: rest)).map .bare = .ok e ↔ Spelled custom (first :: rest) e := by
  rw [map_eq_ok_iff]
  constructor
  · rintro ⟨r, rule, rfl⟩
    exact .bare opens (Rule.readBare_eq_ok_iff.mp rule)
  · intro spelled
    cases spelled with
    | bare _ rule => exact ⟨_, Rule.readBare_eq_ok_iff.mpr rule, rfl⟩
    | taggedAlone noMode => exact absurd opens noMode
    | taggedTogether noMode => exact absurd opens noMode
    | single named => exact absurd opens named.noMode
    | grouped named => exact absurd opens named.noMode

/-- How reading goes on from the first field. -/
inductive Opening (custom : List String) : List Field → Except ShapeError Entry → Prop
  | empty : Opening custom [] (.error .empty)
  | bare {first : Field} {rest : List Field} (opens : first.OpensBare) :
      Opening custom (first :: rest) ((Rule.readBare (first :: rest)).map .bare)
  | tagged {tag : String} {route : Decision} {rest : List Field} (noMode : ¬ (Field.str tag).OpensBare)
      (tagged : Decision.Tagged custom tag route) :
      Opening custom (.str tag :: rest) (readTagged (rest.length + 1) route rest)
  | named {head : String} {rest : List Field} (named : OpensNamed custom head) :
      Opening custom (.str head :: rest) (readNamed head rest)
  | other {first : Field} {rest : List Field} (noMode : ¬ first.OpensBare) (noText : ∀ s, first ≠ .str s) :
      Opening custom (first :: rest)
        (.error (.unexpectedField 0 "match kind, route tag, source or group name" first.display))

theorem opening_read (custom : List String) (fields : List Field) : Opening custom fields (read custom fields) := by
  cases fields with
  | nil => exact .empty
  | cons first rest =>
    -- A text that is both a mode and a custom tag opens a bare rule, so modes are asked first.
    by_cases opens : first.OpensBare
    · rw [read_cons_of_opens opens]
      exact .bare opens
    cases first with
    | int n => exact absurd (.code n) opens
    | str head =>
      cases named : Decision.ofTag? head custom with
      | some route =>
        have tagged := Decision.ofTag?_eq_some_iff.mp named
        rw [read_cons_of_tagged opens tagged]
        exact .tagged opens tagged
      | none =>
        have untagged : OpensNamed custom head := ⟨opens, Decision.ofTag?_eq_none_iff.mp named⟩
        rw [read_cons_of_named untagged]
        exact .named untagged
    | list items => exact .other opens (by simp)
    | other v => exact .other opens (by simp)

/-- Reading accepts the lists of the grammar, each as the entry that it writes. -/
theorem read_eq_ok_iff {custom : List String} {fields : List Field} {e : Entry} :
    read custom fields = .ok e ↔ Spelled custom fields e := by
  have opening := opening_read custom fields
  generalize read custom fields = result at opening ⊢
  cases opening with
  | empty =>
    constructor
    · intro accepted
      cases accepted
    · intro spelled
      cases spelled
  | bare opens => exact readBare_map_eq_ok_iff opens
  | tagged noMode tagged => exact readTagged_eq_ok_iff noMode tagged
  | named named => exact readNamed_eq_ok_iff named
  | other noMode noText =>
    constructor
    · intro accepted
      cases accepted
    · intro spelled
      cases spelled with
      | bare opens => exact absurd opens noMode
      | _ => exact absurd rfl (noText _)

end Entry

/-! ## Errors -/

theorem Rule.describes_of_readPattern {fields : List Field} {index : Nat} {kind : Option MatchKind} {f : Field}
    {err : ShapeError} (place : fields[index]? = some f) (failed : readPattern index kind f = .error err) :
    err.Describes fields := by
  unfold readPattern at failed
  split at failed
  next => cases failed
  next => cases failed; exact ⟨f, place, rfl⟩

theorem Rule.describes_of_readBare {fields : List Field} {err : ShapeError} (failed : readBare fields = .error err) :
    err.Describes fields := by
  unfold readBare at failed
  split at failed
  next kind pattern extra =>
    dsimp only at failed
    split at failed
    next wrong => cases failed; exact describes_of_readPattern rfl wrong
    next => cases failed
  next short =>
    cases failed
    refine ⟨rfl, ?_⟩
    match fields, short with
    | [], _ => simp
    | [_], _ => simp
    | kind :: pattern :: extra, short => exact absurd rfl (short kind pattern extra)

theorem Rule.describes_of_readAt {fields rest : List Field} (index : Nat) {err : ShapeError}
    (behind : fields.drop index = rest) (failed : readAt fields.length index rest = .error err) :
    err.Describes fields := by
  -- Errors count fields from the front of the whole list, and `rest` starts at `index`.
  have place (i : Nat) : fields[index + i]? = rest[i]? := by rw [← behind, List.getElem?_drop]
  unfold readAt at failed
  split at failed
  next source kind pattern extra =>
    split at failed
    next wrong => cases failed; exact describes_of_readText (place 0) wrong
    next =>
      dsimp only at failed
      split at failed
      next wrong => cases failed; exact describes_of_readPattern (place 2) wrong
      next => cases failed
  next short =>
    cases failed
    refine ⟨rfl, ?_⟩
    have few : (fields.drop index).length < 3 := by
      rw [behind]
      match rest, short with
      | [], _ => simp
      | [_], _ => simp
      | [_, _], _ => simp
      | source :: kind :: pattern :: extra, short => exact absurd rfl (short source kind pattern extra)
    rw [List.length_drop] at few
    omega

namespace Entry

theorem describes_of_readTagged {first : Field} {rest : List Field} {route : Decision} {err : ShapeError}
    (failed : readTagged (rest.length + 1) route rest = .error err) : err.Describes (first :: rest) := by
  unfold readTagged at failed
  split at failed
  next a b c =>
    exact Rule.describes_of_readAt 1 rfl (map_eq_error_iff.mp failed)
  next group a b c extra _ =>
    split at failed
    next wrong => cases failed; exact Rule.describes_of_readText rfl wrong
    next => exact Rule.describes_of_readAt 2 rfl (map_eq_error_iff.mp failed)
  next short others =>
    cases failed
    refine ⟨rfl, ?_⟩
    match rest, short, others with
    | [], _, _ => simp
    | [_], _, _ => simp
    | [_, _], _, _ => simp
    | [a, b, c], short, _ => exact absurd rfl (short a b c)
    | group :: a :: b :: c :: extra, _, others => exact absurd rfl (others group a b c extra)

theorem describes_of_readNamed {head : String} {rest : List Field} {err : ShapeError}
    (failed : readNamed head rest = .error err) : err.Describes (.str head :: rest) := by
  unfold readNamed at failed
  split at failed
  next kind pattern =>
    exact Rule.describes_of_readAt 0 rfl (map_eq_error_iff.mp failed)
  next source kind pattern extra =>
    exact Rule.describes_of_readAt 1 rfl (map_eq_error_iff.mp failed)
  next short others =>
    cases failed
    refine ⟨rfl, ?_⟩
    match rest, short, others with
    | [], _, _ => simp
    | [_], _, _ => simp
    | [kind, pattern], short, _ => exact absurd rfl (short kind pattern)
    | source :: kind :: pattern :: extra, _, others => exact absurd rfl (others source kind pattern extra)

/-- An error of reading says of the fields only what is so. -/
theorem describes_of_read {custom : List String} {fields : List Field} {err : ShapeError}
    (failed : read custom fields = .error err) : err.Describes fields := by
  have opening := opening_read custom fields
  rw [failed] at opening
  generalize result : Except.error err = x at opening
  cases opening with
  | empty => cases result; rfl
  | bare opens => exact Rule.describes_of_readBare (map_eq_error_iff.mp result.symm)
  | tagged noMode tagged => exact describes_of_readTagged result.symm
  | named named => exact describes_of_readNamed result.symm
  | other noMode noText => cases result; exact ⟨_, rfl, rfl⟩

end Entry

end

end StreamPolicy
