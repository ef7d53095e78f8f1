import StreamPolicy.Rule.Entry

/-!
# Reading rules

A raw rule is a list of fields, and its first field says what the others mean: a mode opens a bare
rule, the tag of a route a tagged one, a source a single rule of three fields, and a group name a
grouped one.
-/

namespace StreamPolicy

/-- Why a list of fields is no rule. -/
inductive ShapeError where
  | empty
  | tooShort (len min : Nat)
  | unexpectedField (index : Nat) (expected found : String)
  deriving DecidableEq, Repr

def ShapeError.message : ShapeError → String
  | .empty => "rule is empty"
  | .tooShort len min =>
    "rule has " ++ Text.ofNat len ++ " field(s); this shape needs at least " ++ Text.ofNat min
  | .unexpectedField index expected found =>
    "field " ++ Text.ofNat index ++ ": expected " ++ expected ++ ", found " ++ found

variable [RegexEngine]

namespace Rule

def needleText? : Field → Option String
  | .str s => some s
  | .int n => some (Text.ofInt n)
  | _ => none

def needleTexts? : List Field → Option (List String)
  | [] => some []
  | f :: rest =>
    match needleText? f, needleTexts? rest with
    | some t, some ts => some (t :: ts)
    | _, _ => none

def pattern? (kind : Option MatchKind) : Field → Option Pattern
  | .list items => (needleTexts? items).map fun ts => .anyOf (ts.map (Needle.compile · kind))
  | f => (needleText? f).map fun t => .one (Needle.compile t kind)

def readPattern (index : Nat) (kind : Option MatchKind) (f : Field) : Except ShapeError Pattern :=
  match pattern? kind f with
  | some p => .ok p
  | none => .error (.unexpectedField index "string or list of strings" f.display)

def readText (index : Nat) (expected : String) : Field → Except ShapeError String
  | .str s => .ok s
  | f => .error (.unexpectedField index expected f.display)

/-- A source, a mode, a pattern and any further fields, from a place in a list of `len` fields on. -/
def readAt (len index : Nat) : List Field → Except ShapeError Rule
  | source :: kind :: pattern :: extra =>
    match readText index "source" source with
    | .error e => .error e
    | .ok source =>
      let mode := ModeToken.ofField kind
      match readPattern (index + 2) mode.kind? pattern with
      | .error e => .error e
      | .ok pattern => .ok ⟨.ofText source, mode, pattern, extra⟩
  | _ => .error (.tooShort len (index + 3))

def readBare : List Field → Except ShapeError Rule
  | kind :: pattern :: extra =>
    let mode := ModeToken.ofField kind
    match readPattern 1 mode.kind? pattern with
    | .error e => .error e
    | .ok pattern => .ok ⟨.filePath, mode, pattern, extra⟩
  | fields => .error (.tooShort fields.length 2)

end Rule

namespace Entry

/-- The fields behind the tag of a route: a rule of three fields, or a group name and a rule. -/
def readTagged (len : Nat) (route : Decision) : List Field → Except ShapeError Entry
  | [a, b, c] => (Rule.readAt len 1 [a, b, c]).map (.tagged route none)
  | group :: a :: b :: c :: rest =>
    match Rule.readText 1 "group name" group with
    | .error e => .error e
    | .ok group => (Rule.readAt len 2 (a :: b :: c :: rest)).map (.tagged route (some group))
  | _ => .error (.tooShort len 4)

/-- The entry that some fields write. `custom` names the routes of the policy. -/
def read (custom : List String) (fields : List Field) : Except ShapeError Entry :=
  match fields with
  | [] => .error .empty
  | .int _ :: _ => (Rule.readBare fields).map .bare
  | .str head :: rest =>
    if (MatchMode.ofText? head).isSome then (Rule.readBare fields).map .bare
    else
      match Decision.ofTag? head custom with
      | some route => readTagged fields.length route rest
      | none =>
        match rest with
        | [_, _] => (Rule.readAt fields.length 0 fields).map .single
        | _ :: _ :: _ :: _ => (Rule.readAt fields.length 1 rest).map (.grouped head)
        | _ => .error (.tooShort fields.length 3)
  | head :: _ =>
    .error (.unexpectedField 0 "match kind, route tag, source or group name" head.display)

def ofField? (custom : List String) : Field → Option Entry
  | .list fields => (read custom fields).toOption
  | _ => none

/-- The entry with its route: a bare rule with a further field is for the route which that field
names, and is dropped when it names none. -/
def withRoute? (custom : List String) : Entry → Option Entry
  | .bare rule =>
    match rule.extra with
    | [] => some (.bare rule)
    | target :: _ =>
      (target.str?.bind (Decision.ofTag? · custom)).map fun route => .tagged route none rule
  | e => some e

end Entry

/-- The entries of a rule list in order; items that write none are passed over. -/
def readEntries (custom : List String) (raw : List Field) : List Entry :=
  raw.filterMap (Entry.ofField? custom)

def resolveRoutes (custom : List String) (entries : List Entry) : List Entry :=
  entries.filterMap (Entry.withRoute? custom)

end StreamPolicy
