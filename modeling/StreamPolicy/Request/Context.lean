import StreamPolicy.Json.Value

/-!
# What is known about a request

The facts about a request stand in one tree, so that expressions can address them all. The tree is
always an object; a section of it that is not one gives way to an object when something is put into
it.
-/

namespace StreamPolicy

open StreamPolicy.Json

structure Context where
  members : Members
  deriving Repr

namespace Context

def argsSection : String := "args"

def headersSection : String := "headersIn"

def variablesSection : String := "variables"

def remoteAddrKey : String := "remote_addr"

/-- The names that lead to the address of the client. -/
def remoteAddrPath : List String := [variablesSection, remoteAddrKey]

/-- The argument that marks a request as issued by the proxy itself. -/
def internalArg : String := "internal"

def empty : Context :=
  ⟨Members.ofList [(argsSection, .obj []), (headersSection, .obj []), (variablesSection, .obj [])]⟩

/-- A request with a tree; a value that is no object is no tree. -/
def ofTree : Value → Context
  | .obj ms => ⟨ms⟩
  | _ => empty

def tree (ctx : Context) : Value :=
  .obj ctx.members

/-- The members of a section; a section that is no object has none. -/
def sectionMembers (ctx : Context) (name : String) : Members :=
  match Members.get? name ctx.members with
  | some (.obj ms) => ms
  | _ => []

/-- The request with a text put into a section. -/
def put (ctx : Context) (inSection key value : String) : Context :=
  ⟨Members.insert inSection (.obj (Members.insert key (.str value) (ctx.sectionMembers inSection))) ctx.members⟩

def withArg (ctx : Context) (name value : String) : Context :=
  ctx.put argsSection name value

def withHeader (ctx : Context) (name value : String) : Context :=
  ctx.put headersSection name value

def withRemoteAddr (ctx : Context) (addr : String) : Context :=
  ctx.put variablesSection remoteAddrKey addr

/-- The request with a property beside the sections. -/
def withProperty (ctx : Context) (name : String) (value : Value) : Context :=
  ⟨Members.insert name value ctx.members⟩

def text? (ctx : Context) (inSection key : String) : Option String :=
  ((Members.get? inSection ctx.members).bind (Value.get? key)).bind Value.str?

def arg? (ctx : Context) (name : String) : Option String :=
  ctx.text? argsSection name

def header? (ctx : Context) (name : String) : Option String :=
  ctx.text? headersSection name

def remoteAddr? (ctx : Context) : Option String :=
  ctx.text? variablesSection remoteAddrKey

def isInternal (ctx : Context) : Bool :=
  ctx.arg? internalArg = some "1"

end Context

end StreamPolicy
