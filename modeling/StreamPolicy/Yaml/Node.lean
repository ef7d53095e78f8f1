import StreamPolicy.Yaml.Cursor

/-!
# YAML documents

A document is a tree of nodes. An anchor names a node by a number, and an alias stands for the node
of its number; aliases are not resolved here, so a document is no larger than its text.
-/

namespace StreamPolicy.Yaml

inductive Node where
  | scalar (anchor : Option Nat) (tag : Option String) (style : Style) (text : String)
  | seq (anchor : Option Nat) (tag : Option String) (items : List Node)
  | map (anchor : Option Nat) (tag : Option String) (members : List (Node × Node))
  /-- The node of a number. -/
  | alias (number : Nat)
  deriving Inhabited, Repr

def Node.nothing : Node :=
  .scalar none none .plain ""

mutual

/-- The nodes with an anchor in a tree, in the order in which they start. -/
def Node.anchored : Node → List (Nat × Node)
  | .scalar a t s text => (a.map fun n => (n, Node.scalar a t s text)).toList
  | .seq a t items => (a.map fun n => (n, Node.seq a t items)).toList ++ anchoredItems items
  | .map a t ms => (a.map fun n => (n, Node.map a t ms)).toList ++ anchoredMembers ms
  | .alias _ => []

def anchoredItems : List Node → List (Nat × Node)
  | [] => []
  | n :: rest => n.anchored ++ anchoredItems rest

def anchoredMembers : List (Node × Node) → List (Nat × Node)
  | [] => []
  | (k, v) :: rest => k.anchored ++ v.anchored ++ anchoredMembers rest

end

mutual

/-- How many events write a tree: one for a scalar or an alias, two around a collection. -/
def Node.events : Node → Nat
  | .scalar _ _ _ _ => 1
  | .seq _ _ items => eventsItems items + 2
  | .map _ _ ms => eventsMembers ms + 2
  | .alias _ => 1

def eventsItems : List Node → Nat
  | [] => 0
  | n :: rest => n.events + eventsItems rest

def eventsMembers : List (Node × Node) → Nat
  | [] => 0
  | (k, v) :: rest => k.events + v.events + eventsMembers rest

end

/-- A document: its tree, or nothing at all. -/
structure Document where
  root : Option Node
  /-- The nodes of the anchors by number; of two with one number the later counts. -/
  anchors : List (Nat × Node)
  /-- How many aliases may be followed. -/
  budget : Nat

def Document.ofRoot (root : Node) : Document :=
  ⟨some root, root.anchored.reverse, root.events * 100⟩

def Document.node? (d : Document) (number : Nat) : Option Node :=
  (d.anchors.find? fun a => a.1 = number).map Prod.snd

end StreamPolicy.Yaml
