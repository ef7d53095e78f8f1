import StreamPolicy.Yaml.Scalar

/-!
# Reading typed values from documents

What a node is read as depends on what is wanted in its place: a scalar gives its text where a text
is wanted, whatever its spelling would stand for elsewhere. Where nothing is written, a collection is
empty. Every alias that is followed counts against the budget of the document, and collections nest
only so deep; an alias inside its own node runs into that limit.
-/

namespace StreamPolicy.Yaml

open StreamPolicy.Json

/-- Reading spends aliases: the state is how many may still be followed. -/
abbrev Reading := StateT Nat Option

def maxDepth : Nat := 128

/-- The fields of a record. -/
structure Fields where
  depth : Nat
  members : List (String × Node)

namespace Fields

/-- The node of a field; a field may not be written twice. -/
def node? (fs : Fields) (name : String) : Reading (Option Node) :=
  match fs.members.filter fun m => m.1 = name with
  | [] => pure none
  | [m] => pure (some m.2)
  | _ => failure

def required (fs : Fields) (name : String) (read : Nat → Node → Reading α) : Reading α := do
  match ← fs.node? name with
  | some n => read fs.depth n
  | none => failure

def usual (fs : Fields) (name : String) (default : α) (read : Nat → Node → Reading α) :
    Reading α := do
  match ← fs.node? name with
  | some n => read fs.depth n
  | none => pure default

end Fields

namespace Document

def follow (d : Document) : Node → Reading Node
  | .alias number => fun budget =>
    match budget with
    | 0 => none
    | b + 1 => (d.node? number).map (·, b)
  | n => pure n

def text (d : Document) (_ : Nat) (n : Node) : Reading String := do
  match ← d.follow n with
  | .scalar _ _ _ s => pure s
  | _ => failure

def truth (d : Document) (_ : Nat) (n : Node) : Reading Bool := do
  match ← d.follow n with
  | .scalar _ tag style s => liftM (Scalar.truth? tag style s)
  | _ => failure

def optionalCount (d : Document) (_ : Nat) (n : Node) : Reading (Option Nat) := do
  match ← d.follow n with
  | .scalar _ tag style s =>
    if ← liftM (Scalar.isNothing? tag style s) then pure none
    else return some (← liftM (Scalar.count? tag style s))
  | _ => failure

/-- The items of a sequence, each read; `depth` more levels may open. -/
def list (d : Document) (read : Nat → Node → Reading α) (depth : Nat) (n : Node) :
    Reading (List α) := do
  match ← d.follow n with
  | .seq _ _ items =>
    match depth with
    | 0 => failure
    | inner + 1 => items.mapM (read inner)
  | .scalar _ _ .plain "" => pure []
  | _ => failure

def fields (d : Document) (depth : Nat) (n : Node) : Reading Fields := do
  match ← d.follow n with
  | .map _ _ ms =>
    match depth with
    | 0 => failure
    | inner + 1 => return ⟨inner, ← ms.mapM fun (k, v) => return (← d.text inner k, v)⟩
  | .scalar _ _ .plain "" => pure ⟨depth, []⟩
  | _ => failure

/-- The key of a member where any value may stand: it must be a text there too. -/
def key (d : Document) (n : Node) : Reading String := do
  match ← d.follow n with
  | .scalar _ tag style s =>
    match Scalar.value? tag style s with
    | some (.str s) => pure s
    | _ => failure
  | _ => failure

/-- Any value. A collection with a tag of the document's own has none. -/
def value (d : Document) (depth : Nat) (n : Node) : Reading Value := do
  match ← d.follow n with
  | .scalar _ tag style s => liftM (Scalar.value? tag style s)
  | .seq _ tag items =>
    match depth with
    | 0 => failure
    | inner + 1 =>
      if tag.any Tag.isLocal then failure
      else return .arr (← items.mapM (d.value inner))
  | .map _ tag ms =>
    match depth with
    | 0 => failure
    | inner + 1 =>
      if tag.any Tag.isLocal then failure
      else return .object (← ms.mapM fun (k, v) => return (← d.key k, ← d.value inner v))
  | .alias _ => failure

/-- What a reading of the root gives. A text without a document stands for an empty scalar. -/
def readRoot? (d : Document) (read : Nat → Node → Reading α) : Option α :=
  ((read maxDepth (d.root.getD .nothing)).run d.budget).map Prod.fst

end Document

end StreamPolicy.Yaml
