import StreamPolicy.Rule.Field

/-!
# How a rule compares

A rule compares in one of four ways, straight or negated. The mode is written as an integer code or
as a name, which a colon and `not` negate. A field that names no kind keeps its text: the rule stays
and fails whenever it is asked.
-/

namespace StreamPolicy

inductive MatchKind where
  | startsWith
  | endsWith
  | includes
  /-- The text is a pattern that occurs in the subject. -/
  | regex
  deriving DecidableEq, Repr

inductive MatchError where
  | unknownKind (token : String)
  deriving DecidableEq, Repr

def MatchError.message : MatchError → String
  | .unknownKind token => "unknown match kind: " ++ token

namespace MatchKind

def ofCode? (code : Int) : Option MatchKind :=
  if code = 0 then some .startsWith
  else if code = 1 then some .endsWith
  else if code = 2 then some .includes
  else if code = 3 then some .regex
  else none

def ofName? (name : String) : Option MatchKind :=
  if name = "startsWith" then some .startsWith
  else if name = "endsWith" then some .endsWith
  else if name = "includes" then some .includes
  else if name = "match" then some .regex
  else none

def name : MatchKind → String
  | .startsWith => "startsWith"
  | .endsWith => "endsWith"
  | .includes => "includes"
  | .regex => "match"

end MatchKind

structure MatchMode where
  kind : MatchKind
  negate : Bool
  deriving DecidableEq, Repr

namespace MatchMode

def plain (kind : MatchKind) : MatchMode :=
  ⟨kind, false⟩

def negated (kind : MatchKind) : MatchMode :=
  ⟨kind, true⟩

/-- What stands behind the colon of a negated mode. -/
def negation : String := "not"

/-- The mode that a text writes: the name of a kind up to the first colon, negated when what follows
the colon is the word for it. -/
def ofText? (token : String) : Option MatchMode :=
  match Text.splitOnce? token ':' with
  | some (name, suffix) => (MatchKind.ofName? name).map fun kind => ⟨kind, suffix = negation⟩
  | none => (MatchKind.ofName? token).map plain

def ofField (field : Field) : Except MatchError MatchMode :=
  match field with
  | .int code =>
    match MatchKind.ofCode? code with
    | some kind => .ok (plain kind)
    | none => .error (.unknownKind (Text.ofInt code))
  | .str token =>
    match ofText? token with
    | some mode => .ok mode
    | none => .error (.unknownKind token)
  | other => .error (.unknownKind other.display)

def display (mode : MatchMode) : String :=
  if mode.negate then mode.kind.name ++ ":" ++ negation else mode.kind.name

end MatchMode

/-- The mode field of a rule. -/
inductive ModeToken where
  | known (mode : MatchMode)
  /-- A field that names none, by its text. -/
  | unknown (token : String)
  deriving DecidableEq, Repr

namespace ModeToken

def ofField (field : Field) : ModeToken :=
  match MatchMode.ofField field with
  | .ok mode => .known mode
  | .error (.unknownKind token) => .unknown token

def mode? : ModeToken → Option MatchMode
  | .known mode => some mode
  | .unknown _ => none

def kind? (t : ModeToken) : Option MatchKind :=
  t.mode?.map MatchMode.kind

def display : ModeToken → String
  | .known mode => mode.display
  | .unknown token => token

end ModeToken

end StreamPolicy
