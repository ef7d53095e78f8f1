/-!
# Reading positions and tokens

A cursor is what remains of a text together with the line and column that reading has come to. Tokens
are what a text is made of once blanks, comments and indentation have been read: brackets and
indicators, names of anchors and tags, and scalars with the style in which they are written.
-/

namespace StreamPolicy.Yaml

/-- A line end: the two of ASCII, and three of Unicode. -/
def isBreak (c : Char) : Bool :=
  c = '\n' || c = '\r' || c.toNat = 0x85 || c.toNat = 0x2028 || c.toNat = 0x2029

def isBlank (c : Char) : Bool :=
  c = ' ' || c = '\t'

/-- A blank, a line end or the end of the text. -/
def endsWord (c : Option Char) : Bool :=
  match c with
  | none => true
  | some c => isBlank c || isBreak c

/-- A character of names: a letter or digit of ASCII, a hyphen or an underscore. -/
def isNameChar (c : Char) : Bool :=
  c.isAlphanum || c = '-' || c = '_'

structure Cursor where
  rest : List Char
  index : Nat
  line : Nat
  column : Nat

namespace Cursor

def ofChars (cs : List Char) : Cursor :=
  ⟨cs, 0, 0, 0⟩

def peek? (c : Cursor) (n : Nat) : Option Char :=
  (c.rest.drop n).head?

def skip (c : Cursor) (n : Nat) : Cursor :=
  ⟨c.rest.drop n, c.index + n, c.line, c.column + n⟩

/-- The cursor in front of `rest`, which is the end of what remains, on the same line. -/
def moveTo (c : Cursor) (rest : List Char) : Cursor :=
  c.skip (c.rest.length - rest.length)

def skipWhile (c : Cursor) (p : Char → Bool) : Cursor :=
  c.moveTo (c.rest.dropWhile p)

/-- The line end at the cursor as it counts in a scalar, and the cursor behind it. -/
def readBreak (c : Cursor) : List Char × Cursor :=
  match c.rest with
  | '\r' :: '\n' :: rest => (['\n'], ⟨rest, c.index + 2, c.line + 1, 0⟩)
  | ch :: rest =>
    if isBreak ch then
      let text := if ch.toNat < 0x100 then ['\n'] else [ch]
      (text, ⟨rest, c.index + 1, c.line + 1, 0⟩)
    else ([], c)
  | [] => ([], c)

def skipComment (c : Cursor) : Cursor :=
  if c.peek? 0 = some '#' then c.skipWhile fun ch => !isBreak ch else c

/-- A mark of three equal characters stands at the start of a line. -/
def atMark (c : Cursor) (ch : Char) : Bool :=
  c.column = 0 && c.rest.take 3 = [ch, ch, ch] && endsWord (c.peek? 3)

def atDocumentMark (c : Cursor) : Bool :=
  c.atMark '-' || c.atMark '.'

def atBreak (c : Cursor) : Bool :=
  (c.peek? 0).any isBreak

def atBlank (c : Cursor) : Bool :=
  (c.peek? 0).any isBlank

end Cursor

/-! ## Tokens -/

inductive Style where
  | plain
  | quoted
  /-- As a block that keeps its line ends. -/
  | literal
  /-- As a block whose lines are joined. -/
  | folded
  deriving DecidableEq, Repr

inductive Token where
  | version (major minor : Nat)
  | tagHandle (handle meaning : List Char)
  | documentStart
  | documentEnd
  | blockSequenceStart
  | blockMappingStart
  | blockEnd
  | flowSequenceStart
  | flowSequenceEnd
  | flowMappingStart
  | flowMappingEnd
  | blockEntry
  | flowEntry
  | key
  | value
  | alias (name : List Char)
  | anchor (name : List Char)
  | tag (handle suffix : List Char)
  | scalar (text : List Char) (style : Style)
  deriving DecidableEq, Repr

end StreamPolicy.Yaml
