import StreamPolicy.Text.Integer
import StreamPolicy.Yaml.Cursor

/-!
# The text of scalars

How the lines of a scalar become its text. Within quotes and in plain scalars one line end is a
space and further ones stay; a literal block keeps all line ends, a folded one joins lines that are
not indented further.
-/

namespace StreamPolicy.Yaml

/-- What has been read between two runs of characters: blanks, and the line ends behind them. -/
structure Gap where
  blanks : List Char
  first : List Char
  further : List Char
  broken : Bool

namespace Gap

def empty : Gap := ⟨[], [], [], false⟩

def text (g : Gap) : List Char :=
  if !g.broken then g.blanks
  else if g.first.head? = some '\n' then if g.further.isEmpty then [' '] else g.further
  else g.first ++ g.further

/-- Blanks and line ends at a cursor, added to a gap; nothing when a tab stands before column `least`
of a new line. `fuel` bounds the characters. -/
def extend? (least : Nat) : Nat → Gap → Cursor → Option (Gap × Cursor)
  | 0, g, c => some (g, c)
  | fuel + 1, g, c =>
    match c.peek? 0 with
    | none => some (g, c)
    | some ch =>
      if isBlank ch then
        if g.broken && c.column < least && ch = '\t' then none
        else if g.broken then extend? least fuel g (c.skip 1)
        else extend? least fuel { g with blanks := g.blanks ++ [ch] } (c.skip 1)
      else if isBreak ch then
        let (b, c) := c.readBreak
        if g.broken then extend? least fuel { g with further := g.further ++ b } c
        else extend? least fuel ⟨[], b, [], true⟩ c
      else some (g, c)

end Gap

/-- What ends a plain scalar: a colon before a blank, and in a flow collection its indicators. -/
def endsPlain (inFlow : Bool) (c : Char) (next : Option Char) : Bool :=
  (c = ':' && endsWord next) || (inFlow && ",[]\x7b\x7d".toList.contains c)

/-- The characters of a plain scalar up to a blank or its end. In a flow collection a colon may not
stand before an indicator. -/
def plainRun? (inFlow : Bool) : List Char → Option (List Char)
  | [] => some []
  | c :: cs =>
    if endsWord (some c) then some []
    else if inFlow && c = ':' && cs.head?.any ",?[]\x7b\x7d".toList.contains then none
    else if endsPlain inFlow c cs.head? then some []
    else (plainRun? inFlow cs).map (c :: ·)

/-- The lines of a plain scalar behind the runs in `done`, the newest first. Gives its text, the
cursor behind it, and whether a line has ended since its last run. `indent` is the column that its
further lines must reach; `fuel` bounds the runs. -/
def plainLines? (inFlow : Bool) (indent : Nat) :
    Nat → List (List Char) → Gap → Cursor → Option (List Char × Cursor × Bool)
  | 0, _, _, _ => none
  | fuel + 1, done, gap, c =>
    if c.atDocumentMark || c.peek? 0 = some '#' then some (done.reverse.flatten, c, gap.broken)
    else
      match plainRun? inFlow c.rest with
      | none => none
      | some run =>
        let done := if run.isEmpty then done else run :: gap.text :: done
        let gap := if run.isEmpty then gap else .empty
        let c := c.skip run.length
        if !(c.atBlank || c.atBreak) then some (done.reverse.flatten, c, gap.broken)
        else
          match gap.extend? indent (c.rest.length + 1) c with
          | none => none
          | some (gap, c) =>
            if !inFlow && c.column < indent then some (done.reverse.flatten, c, gap.broken)
            else plainLines? inFlow indent fuel done gap c

def plainScalar? (inFlow : Bool) (indent : Int) (c : Cursor) :
    Option (List Char × Cursor × Bool) :=
  plainLines? inFlow (indent + 1).toNat (c.rest.length + 1) [] .empty c

def escapeLetter? : Char → Option Char
  | '0' => some (Char.ofNat 0)
  | 'a' => some (Char.ofNat 7)
  | 'b' => some (Char.ofNat 8)
  | 't' => some '\t'
  | '\t' => some '\t'
  | 'n' => some '\n'
  | 'v' => some (Char.ofNat 11)
  | 'f' => some (Char.ofNat 12)
  | 'r' => some '\r'
  | 'e' => some (Char.ofNat 27)
  | ' ' => some ' '
  | '"' => some '"'
  | '/' => some '/'
  | '\\' => some '\\'
  | 'N' => some (Char.ofNat 0x85)
  | '_' => some (Char.ofNat 0xA0)
  | 'L' => some (Char.ofNat 0x2028)
  | 'P' => some (Char.ofNat 0x2029)
  | _ => none

def codeEscape? (width : Nat) (cs : List Char) : Option (Char × List Char) :=
  let ds := cs.take width
  if ds.length < width then none
  else
    (Text.natIn? 16 ds).bind fun n =>
      if n < 0xD800 || (0xDFFF < n && n ≤ 0x10FFFF) then some (Char.ofNat n, cs.drop width) else none

def escape? : List Char → Option (Char × List Char)
  | 'x' :: r => codeEscape? 2 r
  | 'u' :: r => codeEscape? 4 r
  | 'U' :: r => codeEscape? 8 r
  | c :: r => (escapeLetter? c).map (·, r)
  | [] => none

/-- The characters of a quoted scalar up to a blank, its closing quote or an escaped line end, and
what follows; the truth value says that an escaped line end follows. `fuel` bounds the
characters. -/
def quotedRun? (quote : Char) : Nat → List Char → Option (List Char × Bool × List Char)
  | 0, _ => none
  | _ + 1, [] => some ([], false, [])
  | fuel + 1, c :: cs =>
    let go (ch : Char) (rest : List Char) :=
      (quotedRun? quote fuel rest).map fun (run, b, rest) => (ch :: run, b, rest)
    if endsWord (some c) then some ([], false, c :: cs)
    else if quote = '\'' && c = '\'' && cs.head? = some '\'' then go '\'' (cs.drop 1)
    else if c = quote then some ([], false, c :: cs)
    else if quote = '"' && c = '\\' then
      if cs.head?.any isBreak then some ([], true, cs)
      else
        match escape? cs with
        | some (ch, rest) => go ch rest
        | none => none
    else go c cs

/-- The lines of a quoted scalar behind the runs in `done`, the newest first, up to its closing
quote. `fuel` bounds the runs. -/
def quotedLines? (quote : Char) : Nat → List (List Char) → Cursor → Option (List Char × Cursor)
  | 0, _, _ => none
  | fuel + 1, done, c =>
    if c.atDocumentMark || c.rest.isEmpty then none
    else
      match quotedRun? quote (c.rest.length + 1) c.rest with
      | none => none
      | some (run, escapedBreak, rest) =>
        let c := c.moveTo rest
        let (gap, c) : Gap × Cursor :=
          if escapedBreak then ({ Gap.empty with broken := true }, c.readBreak.2) else (.empty, c)
        if !escapedBreak && c.peek? 0 = some quote then
          some ((run :: done).reverse.flatten, c.skip 1)
        else
          match gap.extend? 0 (c.rest.length + 1) c with
          | none => none
          | some (gap, c) => quotedLines? quote fuel (gap.text :: run :: done) c

def quotedScalar? (quote : Char) (c : Cursor) : Option (List Char × Cursor) :=
  quotedLines? quote (c.rest.length + 1) [] c

/-- What happens to the line ends at the end of a block. -/
inductive Chomping where
  | strip
  | clip
  | keep
  deriving DecidableEq, Repr

/-- Blank lines and indentation before a line of a block: their line ends, the greatest column, and
the cursor. Without an indentation known yet every space is passed over. A tab may not stand in the
indentation. `fuel` bounds the lines. -/
def blockBreaks? (indent : Nat) :
    Nat → List Char → Nat → Cursor → Option (List Char × Nat × Cursor)
  | 0, _, _, _ => none
  | fuel + 1, breaks, widest, c =>
    let spaces := (c.rest.takeWhile (· = ' ')).length
    let c := c.skip (if indent = 0 then spaces else min spaces (indent - c.column))
    let widest := max widest c.column
    if (indent = 0 || c.column < indent) && c.peek? 0 = some '\t' then none
    else if c.atBreak then
      let (b, c) := c.readBreak
      blockBreaks? indent fuel (breaks ++ b) widest c
    else some (breaks, widest, c)

/-- The lines of a block behind the text in `done`, the newest piece first: `lineEnd` is the end of
the last line and `breaks` the blank lines behind it. `indented` says that the last line began with a
blank. `fuel` bounds the lines. -/
def blockLines? (folded : Bool) (indent : Nat) :
    Nat → List (List Char) → List Char → List Char → Bool → Cursor →
      Option (List (List Char) × List Char × List Char × Cursor)
  | 0, _, _, _, _, _ => none
  | fuel + 1, done, lineEnd, breaks, indented, c =>
    if c.column ≠ indent || c.rest.isEmpty then some (done, lineEnd, breaks, c)
    else
      let blank := c.atBlank
      let joined := folded && lineEnd.head? = some '\n' && !indented && !blank
      let before := if joined then if breaks.isEmpty then [' '] else breaks else lineEnd ++ breaks
      let line := c.rest.takeWhile fun ch => !isBreak ch
      let (b, c) := (c.skip line.length).readBreak
      match blockBreaks? indent (c.rest.length + 1) [] 0 c with
      | none => none
      | some (breaks, _, c) => blockLines? folded indent fuel (line :: before :: done) b breaks blank c

/-- The two indicators of a block header in either order: how its end is chomped, and its
indentation, which is no zero. -/
def blockHeader? (cs : List Char) : Option (Chomping × Nat × List Char) :=
  let chomp? : List Char → Chomping × List Char
    | '+' :: r => (.keep, r)
    | '-' :: r => (.strip, r)
    | r => (.clip, r)
  let digit? : List Char → Option (Nat × List Char)
    | c :: r =>
      match Text.digit? c with
      | some 0 => none
      | some n => some (n, r)
      | none => some (0, c :: r)
    | [] => some (0, [])
  let (chomping, rest) := chomp? cs
  match digit? rest with
  | none => none
  | some (n, rest) =>
    if chomping = .clip && n ≠ 0 then
      let (chomping, rest) := chomp? rest
      some (chomping, n, rest)
    else some (chomping, n, rest)

def blockScalar? (folded : Bool) (parent : Int) (c : Cursor) : Option (List Char × Cursor) :=
  match blockHeader? c.rest with
  | none => none
  | some (chomping, width, rest) =>
    let c := ((c.moveTo rest).skipWhile isBlank).skipComment
    if !(c.rest.isEmpty || c.atBreak) then none
    else
      let c := c.readBreak.2
      let given : Nat := if width = 0 then 0 else (max parent 0).toNat + width
      match blockBreaks? given (c.rest.length + 1) [] 0 c with
      | none => none
      | some (breaks, widest, c) =>
        let indent := if given ≠ 0 then given else max widest (max (parent + 1).toNat 1)
        match blockLines? folded indent (c.rest.length + 1) [] [] breaks false c with
        | none => none
        | some (done, lineEnd, breaks, c) =>
          let tail :=
            match chomping with
            | .strip => []
            | .clip => lineEnd
            | .keep => lineEnd ++ breaks
          some (done.reverse.flatten ++ tail, c)

end StreamPolicy.Yaml
