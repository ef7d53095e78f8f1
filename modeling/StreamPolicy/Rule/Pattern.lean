import StreamPolicy.Regex.Engine
import StreamPolicy.Rule.Mode

/-!
# What a rule compares with

The texts of a rule are compiled once, when the rule is read, by any engine for patterns. A text that
should be a pattern and is none matches nothing. An empty subject matches nothing either, negated or not.
-/

namespace StreamPolicy

inductive Needle where
  | literal (text : String)
  /-- A pattern: the text that writes it, and the search for what was compiled from it. -/
  | regex (text : String) (isMatch : String → Bool)
  | invalid (text : String)

namespace Needle

/-- The needle of a text for a kind of comparison: a pattern for the kind that wants one, else the
text itself. -/
def compile [RegexEngine] (text : String) (kind : Option MatchKind) : Needle :=
  if kind = some .regex then
    match RegexEngine.compile? text with
    | some program => .regex text (RegexEngine.isMatch program)
    | none => .invalid text
  else .literal text

def text : Needle → String
  | .literal text => text
  | .regex text _ => text
  | .invalid text => text

/-- A subject matches a needle. A text that was not compiled is no pattern. -/
def matchesSubject (needle : Needle) (kind : MatchKind) (subject : String) : Bool :=
  match needle, kind with
  | .invalid _, _ => false
  | .regex _ isMatch, _ => isMatch subject
  | .literal text, .startsWith => Text.startsWith subject text
  | .literal text, .endsWith => Text.endsWith subject text
  | .literal text, .includes => Text.contains subject text
  | .literal _, .regex => false

end Needle

inductive Pattern where
  | one (needle : Needle)
  /-- A list of texts, any of which may match. -/
  | anyOf (needles : List Needle)

namespace Pattern

def needles : Pattern → List Needle
  | .one needle => [needle]
  | .anyOf needles => needles

def display : Pattern → String
  | .one needle => Text.quote needle.text
  | .anyOf needles => Text.quoteList (needles.map Needle.text)

end Pattern

/-- A subject matches a pattern in a mode: some text matches, or none does when negated. -/
def MatchMode.accepts (mode : MatchMode) (subject : String) (pattern : Pattern) : Bool :=
  pattern.needles.any (·.matchesSubject mode.kind subject) != mode.negate

/-- A subject compared with a pattern; an empty subject never matches. -/
def ModeToken.compare (token : ModeToken) (subject : String) (pattern : Pattern) :
    Except MatchError Bool :=
  match token with
  | .unknown text => .error (.unknownKind text)
  | .known mode => .ok (subject ≠ "" && mode.accepts subject pattern)

/-- A subject compared with one text in the mode that a field writes. -/
def compareText [RegexEngine] (kind : Field) (subject text : String) : Except MatchError Bool :=
  match MatchMode.ofField kind with
  | .error e => .error e
  | .ok mode => (ModeToken.known mode).compare subject (.one (.compile text mode.kind))

end StreamPolicy
