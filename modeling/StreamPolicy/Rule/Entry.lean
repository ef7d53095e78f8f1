import StreamPolicy.Request.Context
import StreamPolicy.Request.Expression
import StreamPolicy.Route.Decision
import StreamPolicy.Rule.Pattern

/-!
# Rules and entries

A rule compares one source with one pattern in one mode. It looks at the file path or the storage link
that is being asked about, or at the value of an expression over the request. An entry of a rule list is
a rule with the label it carries: none, the name of a group, or the tag of a route.
-/

namespace StreamPolicy

inductive Source where
  | filePath
  | storageLink
  | expression (text : String)
  deriving DecidableEq, Repr

namespace Source

/-- The source that a text names; any text that is no name is an expression. -/
def ofText (token : String) : Source :=
  if token = "filePath" then .filePath
  else if token = "alistRes" ∨ token = "storageLink" then .storageLink
  else .expression token

def expression? : Source → Option String
  | .expression text => some text
  | _ => none

def display : Source → String
  | .filePath => "filePath"
  | .storageLink => "alistRes"
  | .expression text => text

/-- A path of an expression leads to the address of the client. -/
def pathReadsRemoteAddr (path : String) : Bool :=
  (Text.split (Text.trim path) Expression.propertySeparator).drop 1 = Context.remoteAddrPath

def readsRemoteAddr : Source → Bool
  | .expression text => (Text.split text Expression.groupSeparator).any pathReadsRemoteAddr
  | _ => false

end Source

/-- One comparison. -/
structure Rule where
  source : Source
  mode : ModeToken
  pattern : Pattern
  /-- The fields behind the pattern. -/
  extra : List Field

namespace Rule

def extraText? (r : Rule) : Option String :=
  r.extra.head?.bind Field.str?

def extraInt? (r : Rule) : Option Int :=
  r.extra.head?.bind Field.int?

def display (r : Rule) : String :=
  Text.quote r.source.display ++ ", " ++ r.mode.display ++ ", " ++ r.pattern.display

end Rule

/-- One entry of a rule list. -/
inductive Entry where
  /-- A rule that names no source: it looks at what its list is about. -/
  | bare (rule : Rule)
  | single (rule : Rule)
  | grouped (group : String) (rule : Rule)
  | tagged (route : Decision) (group : Option String) (rule : Rule)

namespace Entry

def rule : Entry → Rule
  | .bare rule => rule
  | .single rule => rule
  | .grouped _ rule => rule
  | .tagged _ _ rule => rule

def group? : Entry → Option String
  | .grouped group _ => some group
  | .tagged _ group _ => group
  | _ => none

def route? : Entry → Option Decision
  | .tagged route _ _ => some route
  | _ => none

def isTagged : Entry → Bool
  | .tagged _ _ _ => true
  | _ => false

/-- The entry carries the name of a group and no route. -/
def isGrouped : Entry → Bool
  | .grouped _ _ => true
  | _ => false

def readsRemoteAddr (e : Entry) : Bool :=
  e.rule.source.readsRemoteAddr

def display : Entry → String
  | .bare rule => "[" ++ rule.mode.display ++ ", " ++ rule.pattern.display ++ "]"
  | .single rule => "[" ++ rule.display ++ "]"
  | .grouped group rule => "[" ++ Text.quote group ++ ", " ++ rule.display ++ "]"
  | .tagged route none rule => "[" ++ Text.quote route.tag ++ ", " ++ rule.display ++ "]"
  | .tagged route (some group) rule =>
    "[" ++ Text.quote route.tag ++ ", " ++ Text.quote group ++ ", " ++ rule.display ++ "]"

end Entry

end StreamPolicy
