import StreamPolicy.Regex.Node

/-!
# Matching

A pattern is compiled to a program whose threads advance together over a text, one character at a
time, so that a search takes time in proportion to the text and the program, whatever the pattern.
A search starts a new thread at every position and asks only whether some thread finishes.
-/

namespace StreamPolicy.Regex

open StreamPolicy.Unicode

/-- One step of a thread; the numbers are places in the program. -/
inductive Inst where
  | chars (s : CharSet) (next : Nat)
  | look (l : Look) (next : Nat)
  | split (a b : Nat)
  | done
  deriving Inhabited

structure Program where
  code : Array Inst
  start : Nat
  deriving Inhabited

/-- A piece of code that goes on at a given place: it extends a program and gives its own start. -/
abbrev Emit := Nat → Array Inst → Nat × Array Inst

def emit (inst : Nat → Inst) : Emit := fun next code =>
  (code.size, code.push (inst next))

/-- A piece of code a number of times in a row. -/
def emitTimes (e : Emit) : Nat → Emit
  | 0, next, code => (next, code)
  | n + 1, next, code =>
    let (start, code) := e next code
    emitTimes e n start code

/-- A piece of code up to a number of times in a row, each of which may go on at once. -/
def emitUpTo (e : Emit) (exit : Nat) : Nat → Emit
  | 0, next, code => (next, code)
  | n + 1, next, code =>
    let (start, code) := e next code
    emitUpTo e exit n code.size (code.push (.split start exit))

def emitLoop (e : Emit) : Emit := fun next code =>
  let place := code.size
  let (start, code) := e place (code.push (.split next next))
  (place, code.setIfInBounds place (.split start next))

mutual

def Node.emit : Node → Emit
  | .empty => fun next code => (next, code)
  | .chars s => Regex.emit (.chars s)
  | .look l => Regex.emit (.look l)
  | .cat parts => emitAll parts
  | .alt branches => emitAny branches
  | .repeated min max a => fun next code =>
    let (start, code) :=
      match max with
      | none => emitLoop a.emit next code
      | some m => emitUpTo a.emit next (m - min) next code
    emitTimes a.emit min start code
  | .group a => a.emit

def emitAll : List Node → Emit
  | [], next, code => (next, code)
  | n :: rest, next, code =>
    let (start, code) := emitAll rest next code
    n.emit start code

def emitAny : List Node → Emit
  | [], next, code => (next, code)
  | [n], next, code => n.emit next code
  | n :: m :: rest, next, code =>
    let (other, code) := emitAny (m :: rest) next code
    let (start, code) := n.emit next code
    (code.size, code.push (.split start other))

end

def Node.program (n : Node) : Program :=
  let (start, code) := n.emit 0 #[.done]
  ⟨code, start⟩

def isWord (unicode : Bool) (c : Option Char) : Bool :=
  match c with
  | none => false
  | some c => if unicode then wordChars.contains c else c.isAlphanum || c = '_'

def Look.holds (l : Look) (before behind : Option Char) : Bool :=
  match l with
  | .start => before.isNone
  | .stop => behind.isNone
  | .lineStart false => before.isNone || before = some '\n'
  | .lineEnd false => behind.isNone || behind = some '\n'
  | .lineStart true =>
    before.isNone || before = some '\n' || (before = some '\r' && behind ≠ some '\n')
  | .lineEnd true =>
    behind.isNone || behind = some '\r' || (behind = some '\n' && before ≠ some '\r')
  | .word u => isWord u before != isWord u behind
  | .notWord u => isWord u before == isWord u behind
  | .wordStart u => !isWord u before && isWord u behind
  | .wordEnd u => isWord u before && !isWord u behind
  | .wordStartHalf u => !isWord u before
  | .wordEndHalf u => !isWord u behind

/-- The threads at a position: whether one has finished, the places that wait for a character, and
for each place the last position at which a thread reached it. -/
structure Threads where
  finished : Bool
  waiting : List Nat
  /-- The mark of the last position that reached each place. -/
  marks : Array Nat

/-- Follows the threads at some places to the steps that wait for a character. No place is entered
twice at a position, so `fuel` needs to be no more than twice the program and the places at the
start. -/
def Program.follow (p : Program) (mark : Nat) (before behind : Option Char) :
    Nat → List Nat → Threads → Threads
  | 0, _, t => t
  | _, [], t => t
  | fuel + 1, place :: work, t =>
    if t.marks[place]? = some mark then p.follow mark before behind fuel work t
    else
      let t := { t with marks := t.marks.setIfInBounds place mark }
      match p.code[place]? with
      | none => p.follow mark before behind fuel work t
      | some .done => { t with finished := true }
      | some (.chars _ _) =>
        p.follow mark before behind fuel work { t with waiting := place :: t.waiting }
      | some (.look l next) =>
        if l.holds before behind then p.follow mark before behind fuel (next :: work) t
        else p.follow mark before behind fuel work t
      | some (.split a b) => p.follow mark before behind fuel (a :: b :: work) t

def Program.advance? (p : Program) (c : Char) (place : Nat) : Option Nat :=
  match p.code[place]? with
  | some (.chars s next) => if s.contains c then some next else none
  | _ => none

/-- Some thread finishes in the rest of a text. `work` holds the places reached at its first
position. -/
def Program.search (p : Program) (mark : Nat) (marks : Array Nat) (before : Option Char)
    (work : List Nat) : List Char → Bool
  | [] => (p.follow mark before none (2 * p.code.size + work.length + 2) (p.start :: work)
      ⟨false, [], marks⟩).finished
  | c :: cs =>
    let t := p.follow mark before (some c) (2 * p.code.size + work.length + 2) (p.start :: work)
      ⟨false, [], marks⟩
    t.finished || p.search (mark + 1) t.marks (some c) (t.waiting.filterMap (p.advance? c)) cs

def Program.occursIn (p : Program) (s : List Char) : Bool :=
  p.search 1 (Array.replicate p.code.size 0) none [] s

end StreamPolicy.Regex
