import StreamPolicy.Regex.Parser
import StreamPolicy.Regex.Program

/-!
# Engines for patterns

A text is compiled once and then searched for in any number of subjects. What a rule does with its
patterns does not hang on the engine that compiles them: `RegexEngine` is any pair of a compiler and a
search, and `Regex` the one that runs.

Compiling fails for a text that is no pattern, that could match a part of a character, or that is too
large. The size is that of an automaton over bytes, counted without building it: every state has a fixed
weight, a class weighs as much as the states that tell its byte sequences apart, and a counted repetition
weighs as much as its copies.
-/

namespace StreamPolicy

/-- A compiler of patterns, and a search for what it has compiled. -/
class RegexEngine where
  Program : Type
  compile? : String → Option Program
  isMatch : Program → String → Bool

namespace Regex

open StreamPolicy.Unicode

def maxWeight : Nat := 10485760

def stateWeight : Nat := 32

def edgeWeight : Nat := 4

def tailCount (n : Nat) : Nat :=
  if n < 0x80 then 0 else if n < 0x800 then 1 else if n < 0x10000 then 2 else 3

def codeBytes (n : Nat) : List Nat :=
  match tailCount n with
  | 0 => [n]
  | 1 => [0xC0 + n / 64, 0x80 + n % 64]
  | 2 => [0xE0 + n / 4096, 0x80 + n / 64 % 64, 0x80 + n % 64]
  | _ => [0xF0 + n / 262144, 0x80 + n / 4096 % 64, 0x80 + n / 64 % 64, 0x80 + n % 64]

/-- Cuts a range where its byte sequences stop being a product of byte ranges: in front of the last
`k` continuation bytes, for each `k`. -/
def alignedPieces : Nat → List Nat → Nat × Nat → List (Nat × Nat)
  | fuel + 1, k :: ks, (lo, hi) =>
    let m := Nat.pow 64 k
    if lo / m = hi / m then alignedPieces fuel ks (lo, hi)
    else if lo % m ≠ 0 then
      let cut := (lo / m + 1) * m
      alignedPieces fuel ks (lo, cut - 1) ++ alignedPieces fuel (k :: ks) (cut, hi)
    else if hi % m ≠ m - 1 then
      let cut := hi / m * m
      alignedPieces fuel ks (lo, cut - 1) ++ alignedPieces fuel ks (cut, hi)
    else alignedPieces fuel ks (lo, hi)
  | _, _, r => [r]

/-- The ranges of a set cut so that each holds code points of one length. -/
def byLength (s : CharSet) : List (Nat × Nat) :=
  [(0, 0x7F), (0x80, 0x7FF), (0x800, 0xFFFF), (0x10000, 0x10FFFF)].flatMap fun (a, b) =>
    (s.ranges.map fun (lo, hi) => (max lo a, min hi b)).filter fun (lo, hi) => lo ≤ hi

/-- The sequences of byte ranges that write the characters of a set. -/
def byteSequences (s : CharSet) : List (List (Nat × Nat)) :=
  (byLength s).flatMap fun (lo, hi) =>
    let ks := (List.range (tailCount lo)).map (· + 1)
    (alignedPieces 64 ks (lo, hi)).map fun (a, b) => (codeBytes a).zip (codeBytes b)

/-- How many elements of a list are not shared with the start of another. -/
def unshared : List (Nat × Nat) → List (Nat × Nat) → Nat
  | a :: as, b :: bs => if a = b then unshared as bs else bs.length + 1
  | _, bs => bs.length

/-- How many states tell some sequences apart, when sequences that follow one another share the
states of their common start. -/
def prefixStates (before : List (Nat × Nat)) : List (List (Nat × Nat)) → Nat
  | [] => 0
  | s :: rest => unshared before s + prefixStates s rest

def classWeight (s : CharSet) : Nat :=
  match s.ranges with
  | [] => stateWeight
  | ranges =>
    if ranges.all fun (_, hi) => hi < 0x80 then
      match ranges with
      | [(lo, hi)] => if lo = hi then stateWeight else 2 * stateWeight + 2 * edgeWeight
      | _ => 2 * stateWeight + 2 * edgeWeight * ranges.length
    else
      let sequences := byteSequences s
      match sequences with
      | [one] => stateWeight * one.length
      | _ => stateWeight * (2 + prefixStates [] sequences) + edgeWeight * sequences.length

/-- The weight of a repetition of a pattern with a weight. -/
def repeatWeight (min : Nat) (max : Option Nat) (weight : Nat) : Nat :=
  match min, max with
  | 0, some 0 => stateWeight
  | 1, some 1 => weight
  | 0, none => weight + stateWeight + 2 * edgeWeight
  | n, none => n * weight + stateWeight + 2 * edgeWeight
  | n, some m =>
    if n = m then n * weight
    else n * weight + stateWeight + (m - n) * (weight + stateWeight + 2 * edgeWeight)

mutual

def Node.weight : Node → Nat
  | .empty => stateWeight
  | .chars s => classWeight s
  | .look _ => stateWeight
  | .cat parts => weights parts
  | .alt branches => weights branches + 2 * stateWeight + edgeWeight * branches.length
  | .repeated min max a => repeatWeight min max a.weight
  | .group a => a.weight + 2 * stateWeight

def weights : List Node → Nat
  | [] => 0
  | n :: rest => n.weight + weights rest

end

end Regex

structure Regex where
  program : Regex.Program
  deriving Inhabited

namespace Regex

def compile? (text : String) : Option Regex :=
  match Ast.parse? text.toList with
  | none => none
  | some ast =>
    match ast.toNode? with
    | none => none
    | some node => if node.weight ≤ maxWeight then some ⟨node.program⟩ else none

def isMatch (re : Regex) (subject : String) : Bool :=
  re.program.occursIn subject.toList

end Regex

/-- Patterns are compiled and searched for by `Regex`. -/
instance : RegexEngine where
  Program := Regex
  compile? := Regex.compile?
  isMatch := Regex.isMatch

end StreamPolicy
