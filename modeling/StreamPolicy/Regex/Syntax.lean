import StreamPolicy.Unicode.CharSet

/-!
# Patterns as they are written

The tree of a pattern before its flags take effect. `Ast.depth` is the measure that limits how
deeply a pattern may nest.
-/

namespace StreamPolicy.Regex

/-- A switch that changes how what follows it is read. -/
inductive Flag where
  | caseInsensitive
  | multiLine
  | dotMatchesNewline
  /-- Greedy and lazy repetition change places. -/
  | swapGreed
  | unicode
  | crlf
  /-- Blanks and comments in the pattern do not count. -/
  | ignoreBlanks
  deriving DecidableEq, Repr

/-- Flags that a pattern sets, with the value each gets. -/
abbrev FlagSettings := List (Flag × Bool)

inductive Anchor where
  | startLine
  | endLine
  | startText
  | endText
  | wordBoundary
  | notWordBoundary
  | wordStart
  | wordEnd
  | wordStartHalf
  | wordEndHalf
  deriving DecidableEq, Repr

/-- A class with a one-letter name. -/
inductive ShortClass where
  | digit
  | space
  | word
  deriving DecidableEq, Repr

inductive SetOp where
  | inter
  | diff
  | symmDiff
  deriving DecidableEq, Repr

inductive Query where
  | named (name : List Char)
  | valued (property value : List Char)
  deriving DecidableEq, Repr

/-- A character as it is written: `byte` for the form of two hexadecimal digits, which means a
byte where Unicode is off. -/
structure Literal where
  char : Char
  byte : Bool
  deriving DecidableEq, Repr

inductive ClassExpr where
  | literal (l : Literal)
  | range (lo hi : Literal)
  | ascii (ranges : List (Nat × Nat)) (negated : Bool)
  | short (c : ShortClass) (negated : Bool)
  | property (q : Query) (negated : Bool)
  | bracket (negated : Bool) (inner : ClassExpr)
  | union (parts : List ClassExpr)
  | binary (op : SetOp) (left right : ClassExpr)
  deriving Repr

inductive Ast where
  | empty
  | flags (settings : FlagSettings)
  | literal (l : Literal)
  | dot
  | anchor (a : Anchor)
  | short (c : ShortClass) (negated : Bool)
  | property (q : Query) (negated : Bool)
  | bracket (negated : Bool) (inner : ClassExpr)
  | repetition (min : Nat) (max : Option Nat) (a : Ast)
  /-- A pattern in parentheses, with the flags set inside it; `captures` for a group with a
  number. -/
  | group (captures : Bool) (settings : FlagSettings) (a : Ast)
  | alternation (branches : List Ast)
  | concat (parts : List Ast)
  deriving Repr, Inhabited

mutual

def ClassExpr.depth : ClassExpr → Nat
  | .bracket _ inner => inner.depth + 1
  | .union parts => unionDepth parts
  | .binary _ a b => max a.depth b.depth + 1
  | _ => 0

/-- How deeply a union of classes nests: a union of one class adds no level. -/
def unionDepth : List ClassExpr → Nat
  | [] => 0
  | [p] => p.depth
  | p :: q :: rest => max (p.depth + 1) (unionsDepth (q :: rest) + 1)

def unionsDepth : List ClassExpr → Nat
  | [] => 0
  | p :: rest => max p.depth (unionsDepth rest)

end

mutual

def Ast.depth : Ast → Nat
  | .bracket _ inner => inner.depth + 1
  | .repetition _ _ a => a.depth + 1
  | .group _ _ a => a.depth + 1
  | .alternation branches => listDepth branches + 1
  | .concat parts => listDepth parts + 1
  | _ => 0

def listDepth : List Ast → Nat
  | [] => 0
  | a :: rest => max a.depth (listDepth rest)

end

end StreamPolicy.Regex
