import StreamPolicy.Json.Record

/-!
# Routes

Where a request for a media file goes, and which stage of the decision sent it there. In JSON a route
is written as its tag; a route that the deployment defines is written as an object, so that it cannot
be taken for a route that every policy knows.
-/

namespace StreamPolicy

/-- Where a request goes. -/
inductive Decision where
  | proxy
  | redirect
  | block
  | custom (name : String)
  deriving DecidableEq, Repr

namespace Decision

def builtinTags : List String := ["proxy", "redirect", "block"]

/-- The route of a tag: one of the routes that every policy knows, or one of the custom ones. -/
def ofTag? (tag : String) (custom : List String) : Option Decision :=
  if tag = "proxy" then some .proxy
  else if tag = "redirect" then some .redirect
  else if tag = "block" then some .block
  else if tag ∈ custom then some (.custom tag)
  else none

def tag : Decision → String
  | .proxy => "proxy"
  | .redirect => "redirect"
  | .block => "block"
  | .custom name => name

end Decision

inductive Stage where
  /-- The file lies outside every media mount. -/
  | mountPath
  | singleProxy
  | groupProxy
  /-- A rule for another route matched. -/
  | taggedRoute
  | fallback
  deriving DecidableEq, Repr

namespace Stage

/-- The stages in the order in which they are tried. -/
def precedence : List Stage :=
  [.mountPath, .singleProxy, .groupProxy, .taggedRoute, .fallback]

def name : Stage → String
  | .mountPath => "mount_path"
  | .singleProxy => "single_proxy"
  | .groupProxy => "group_proxy"
  | .taggedRoute => "tagged_route"
  | .fallback => "default"

def ofName? (name : String) : Option Stage :=
  precedence.find? fun s => s.name = name

end Stage

/-- How one request is routed. -/
structure Outcome where
  decision : Decision
  stage : Stage
  matched : Option String
  reason : String
  deriving DecidableEq, Repr

namespace Outcome

/-- Nothing matched: the request goes to the storage backend. -/
def fallback (reason : String) : Outcome :=
  ⟨.redirect, .fallback, none, reason⟩

def unmounted : Outcome :=
  ⟨.proxy, .mountPath, none, "candidate is outside every media mount"⟩

end Outcome

/-! ## Routes in JSON -/

open StreamPolicy.Json

/-- The key of a route that the deployment defines. -/
def customKey : String := "custom"

def Decision.toJson : Decision → Value
  | .custom name => .object [(customKey, .str name)]
  | d => .str d.tag

def Decision.ofJson? (v : Value) : Option Decision :=
  match v.choice? with
  | some (key, some (.str name)) => if key = customKey then some (.custom name) else none
  | _ => v.name?.bind (Decision.ofTag? · [])

def Stage.toJson (s : Stage) : Value :=
  .str s.name

def Stage.ofJson? (v : Value) : Option Stage :=
  v.name?.bind Stage.ofName?

def Outcome.members (o : Outcome) : Members :=
  [("decision", o.decision.toJson), ("stage", o.stage.toJson),
    ("matched", .ofOption .str o.matched), ("reason", .str o.reason)]

def Outcome.toJson (o : Outcome) : Value :=
  .object o.members

end StreamPolicy
