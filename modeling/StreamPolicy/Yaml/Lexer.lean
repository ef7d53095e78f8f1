import StreamPolicy.Text.Utf8
import StreamPolicy.Yaml.ScalarText

/-!
# Reading tokens

`tokens?` reads a whole YAML text. In block context the columns of entries and keys open and close
collections. A token on one line may turn out to be a key when a colon follows it, so the place of
each such token is kept until its line ends; the key mark is then put in front of it.
-/

namespace StreamPolicy.Yaml

/-- A place where a key may have started. -/
structure KeyPlace where
  tokens : Nat
  index : Nat
  line : Nat
  column : Nat
  /-- Nothing else may stand there. -/
  required : Bool

structure Lexer where
  cursor : Cursor
  tokens : Array Token
  /-- The column of the open block, or one less than the first column. -/
  indent : Int
  outer : List Int
  /-- For each open flow collection, and for the block around them, the place where a key may have
  started. -/
  places : List (Option KeyPlace)
  keyAllowed : Bool

namespace Lexer

def ofChars (cs : List Char) : Lexer :=
  ⟨.ofChars cs, #[], -1, [], [none], true⟩

def inFlow (l : Lexer) : Bool :=
  l.places.length > 1

def push (l : Lexer) (t : Token) : Lexer :=
  { l with tokens := l.tokens.push t }

def take (l : Lexer) (t : Token) (n : Nat) : Lexer :=
  { l.push t with cursor := l.cursor.skip n }

/-- No place for a key is left in the open collection; fails when a key had to stand there. -/
def forgetPlace? (l : Lexer) : Option Lexer :=
  match l.places with
  | some p :: rest => if p.required then none else some { l with places := none :: rest }
  | _ => some l

/-- A place on an earlier line or more than 1024 characters back is out of reach. -/
def outOfReach (c : Cursor) (p : KeyPlace) : Bool :=
  p.line < c.line || p.index + 1024 < c.index

/-- The places that are still in reach; fails when a key had to stand at one that is not. -/
def dropStale? (l : Lexer) : Option Lexer :=
  if l.places.any fun p => p.any fun p => outOfReach l.cursor p && p.required then none
  else some { l with places := l.places.map fun p => p.filter fun p => !outOfReach l.cursor p }

def savePlace? (l : Lexer) : Option Lexer :=
  if !l.keyAllowed then some l
  else
    let c := l.cursor
    let required := !l.inFlow && l.indent = (c.column : Int)
    l.forgetPlace?.map fun l =>
      { l with places := some ⟨l.tokens.size, c.index, c.line, c.column, required⟩ :: l.places.drop 1 }

/-- Opens a block at a column that lies deeper, with its token at a place among the tokens. -/
def rollIndent (l : Lexer) (column : Nat) (place : Nat) (t : Token) : Lexer :=
  if l.inFlow || l.indent ≥ (column : Int) then l
  else
    { l with
      outer := l.indent :: l.outer
      indent := column
      tokens := l.tokens.insertIdxIfInBounds place t }

/-- The blocks that lie deeper than a column close: their tokens, and the blocks that stay. -/
def closeTo (column : Int) : Int → List Int → Array Token → Int × List Int × Array Token
  | indent, [], tokens => (indent, [], tokens)
  | indent, o :: outer, tokens =>
    if indent > column then closeTo column o outer (tokens.push .blockEnd)
    else (indent, o :: outer, tokens)

def unrollIndent (l : Lexer) (column : Int) : Lexer :=
  if l.inFlow then l
  else
    let (indent, outer, tokens) := closeTo column l.indent l.outer l.tokens
    { l with indent := indent, outer := outer, tokens := tokens }

/-- Blanks, comments and line ends before the next token. A tab counts as a blank where no key may
start. `fuel` bounds the lines. -/
def skipToToken : Nat → Lexer → Lexer
  | 0, l => l
  | fuel + 1, l =>
    let c := l.cursor
    let c := if c.column = 0 && (c.peek? 0).any (·.toNat = 0xFEFF) then c.skip 1 else c
    let tabs := l.inFlow || !l.keyAllowed
    let c := (c.skipWhile fun ch => ch = ' ' || (tabs && ch = '\t')).skipComment
    if c.atBreak then
      skipToToken fuel { l with cursor := c.readBreak.2, keyAllowed := l.keyAllowed || !l.inFlow }
    else { l with cursor := c }

def versionNumber? (cs : List Char) : Option (Nat × List Char) :=
  let ds := cs.takeWhile Char.isDigit
  if ds.length > 9 then none else (Text.natIn? 10 ds).map (·, cs.drop ds.length)

/-- A tag handle: an exclamation mark, name characters and perhaps a second mark. A directive takes
no handle of names without that second mark. -/
def tagHandle? (directive : Bool) (cs : List Char) : Option (List Char × List Char) :=
  match cs with
  | '!' :: r =>
    let name := r.takeWhile isNameChar
    match r.drop name.length with
    | '!' :: rest => some ('!' :: name ++ ['!'], rest)
    | rest => if directive && !name.isEmpty then none else some ('!' :: name, rest)
  | _ => none

/-- A character of a tag; a comma and brackets belong to one only where `wide`. -/
def isTagChar (wide : Bool) (c : Char) : Bool :=
  isNameChar c || ";/?:@&=+$.%!~*'()".toList.contains c || (wide && ",[]".toList.contains c)

def escapedBytes? : Nat → List Char → Option (List UInt8 × List Char)
  | fuel + 1, '%' :: r =>
    match Text.natIn? 16 (r.take 2) with
    | some n =>
      if r.length < 2 then none
      else (escapedBytes? fuel (r.drop 2)).map fun (bs, rest) => (UInt8.ofNat n :: bs, rest)
    | none => none
  | _, cs => some ([], cs)

def tagChars? (wide : Bool) : Nat → List Char → Option (List Char × List Char)
  | 0, cs => some ([], cs)
  | _ + 1, [] => some ([], [])
  | fuel + 1, '%' :: r =>
    match escapedBytes? (r.length + 1) ('%' :: r) with
    | none => none
    | some (bytes, rest) =>
      (Text.Utf8.decode? bytes).bind fun cs =>
        (tagChars? wide fuel rest).map fun (more, rest) => (cs ++ more, rest)
  | fuel + 1, c :: cs =>
    if isTagChar wide c then (tagChars? wide fuel cs).map fun (more, rest) => (c :: more, rest)
    else some ([], c :: cs)

def directive? (cs : List Char) : Option (Token × List Char) :=
  let name := cs.takeWhile isNameChar
  let rest := cs.drop name.length
  if name.isEmpty || !endsWord rest.head? then none
  else if name = "YAML".toList then
    match versionNumber? (rest.dropWhile isBlank) with
    | some (major, '.' :: rest) =>
      (versionNumber? rest).map fun (minor, rest) => (.version major minor, rest)
    | _ => none
  else if name = "TAG".toList then
    match tagHandle? true (rest.dropWhile isBlank) with
    | none => none
    | some (handle, rest) =>
      if !rest.head?.any isBlank then none
      else
        let rest := rest.dropWhile isBlank
        match tagChars? true (rest.length + 1) rest with
        | none => none
        | some (meaning, rest) =>
          if meaning.isEmpty || !endsWord rest.head? then none
          else some (.tagHandle handle meaning, rest)
  else none

def readDirective? (l : Lexer) : Option Lexer :=
  match directive? (l.cursor.rest.drop 1) with
  | none => none
  | some (t, rest) =>
    let c := ((l.cursor.moveTo rest).skipWhile isBlank).skipComment
    if c.rest.isEmpty || c.atBreak then some { l.push t with cursor := c.readBreak.2 } else none

def endsAnchor (c : Option Char) : Bool :=
  endsWord c || c.any "?:,]\x7d%@\x60".toList.contains

def readAnchor? (l : Lexer) (token : List Char → Token) : Option Lexer :=
  let cs := l.cursor.rest.drop 1
  let name := cs.takeWhile isNameChar
  if name.isEmpty || !endsAnchor (cs.drop name.length).head? then none
  else some (l.take (token name) (name.length + 1))

/-- A tag: between angles as it stands, or a handle and what follows it. -/
def tag? (cs : List Char) : Option (Token × List Char) :=
  match cs with
  | '!' :: '<' :: r =>
    match tagChars? true (r.length + 1) r with
    | some (suffix, '>' :: rest) => if suffix.isEmpty then none else some (.tag [] suffix, rest)
    | _ => none
  | cs =>
    match tagHandle? false cs with
    | none => none
    | some (handle, rest) =>
      match tagChars? false (rest.length + 1) rest with
      | none => none
      | some (suffix, rest) =>
        if handle.length > 1 && handle.getLast? = some '!' then
          if suffix.isEmpty then none else some (.tag handle suffix, rest)
        else
          let suffix := handle.drop 1 ++ suffix
          if suffix.isEmpty then some (.tag [] ['!'], rest) else some (.tag ['!'] suffix, rest)

def readTag? (l : Lexer) : Option Lexer :=
  match tag? l.cursor.rest with
  | none => none
  | some (t, rest) =>
    if endsWord rest.head? || (l.inFlow && rest.head? = some ',') then
      some { l.push t with cursor := l.cursor.moveTo rest }
    else none

/-- Closes all blocks; no key may start. -/
def closeBlocks? (l : Lexer) : Option Lexer :=
  (l.unrollIndent (-1)).forgetPlace?.map fun l => { l with keyAllowed := false }

def openFlow? (l : Lexer) (t : Token) : Option Lexer :=
  l.savePlace?.map fun l =>
    { l.take t 1 with places := none :: l.places, keyAllowed := true }

def closeFlow? (l : Lexer) (t : Token) : Option Lexer :=
  l.forgetPlace?.map fun l =>
    { l.take t 1 with
      places := if l.inFlow then l.places.drop 1 else l.places
      keyAllowed := false }

/-- Opens the block of an entry or a key that stands at the cursor, where one may stand. -/
def openBlock? (l : Lexer) (t : Token) : Option Lexer :=
  if l.inFlow then some l
  else if l.keyAllowed then some (l.rollIndent l.cursor.column l.tokens.size t)
  else none

def readEntry? (l : Lexer) : Option Lexer :=
  (l.openBlock? .blockSequenceStart).bind fun l =>
    l.forgetPlace?.map fun l => { l.take .blockEntry 1 with keyAllowed := true }

def readKey? (l : Lexer) : Option Lexer :=
  (l.openBlock? .blockMappingStart).bind fun l =>
    l.forgetPlace?.map fun l => { l.take .key 1 with keyAllowed := !l.inFlow }

/-- Reads the mark of a value: what stands at the place kept for a key becomes one. -/
def readValue? (l : Lexer) : Option Lexer :=
  match l.places with
  | some p :: rest =>
    let l := { l with tokens := l.tokens.insertIdxIfInBounds p.tokens .key, places := none :: rest }
    let l := l.rollIndent p.column p.tokens .blockMappingStart
    some { l.take .value 1 with keyAllowed := false }
  | _ =>
    (l.openBlock? .blockMappingStart).map fun l =>
      { l.take .value 1 with keyAllowed := !l.inFlow }

def readBlock? (l : Lexer) (folded : Bool) : Option Lexer :=
  l.forgetPlace?.bind fun l =>
    (blockScalar? folded l.indent (l.cursor.skip 1)).map fun (text, c) =>
      { l.push (.scalar text (if folded then .folded else .literal)) with
        cursor := c
        keyAllowed := true }

def readQuoted? (l : Lexer) (quote : Char) : Option Lexer :=
  l.savePlace?.bind fun l =>
    (quotedScalar? quote (l.cursor.skip 1)).map fun (text, c) =>
      { l.push (.scalar text .quoted) with cursor := c, keyAllowed := false }

def readPlain? (l : Lexer) : Option Lexer :=
  l.savePlace?.bind fun l =>
    (plainScalar? l.inFlow l.indent l.cursor).map fun (text, c, broken) =>
      { l.push (.scalar text .plain) with cursor := c, keyAllowed := broken }

def isIndicator (c : Char) : Bool :=
  "-?:,[]\x7b\x7d#&*!|>'\"%@\x60".toList.contains c

/-- A plain scalar may start with a character before another. -/
def startsPlain (inFlow : Bool) (c : Char) (next : Option Char) : Bool :=
  (!endsWord (some c) && !isIndicator c) || (c = '-' && !next.any isBlank) ||
    (!inFlow && (c = '?' || c = ':') && !endsWord next)

def readToken? (l : Lexer) (ch : Char) : Option Lexer :=
  let c := l.cursor
  let next := c.peek? 1
  let indicator := l.inFlow || endsWord next
  if c.column = 0 && ch = '%' then l.closeBlocks?.bind readDirective?
  else if c.atMark '-' then l.closeBlocks?.map (·.take .documentStart 3)
  else if c.atMark '.' then l.closeBlocks?.map (·.take .documentEnd 3)
  else if ch = '[' then l.openFlow? .flowSequenceStart
  else if ch = '\x7b' then l.openFlow? .flowMappingStart
  else if ch = ']' then l.closeFlow? .flowSequenceEnd
  else if ch = '\x7d' then l.closeFlow? .flowMappingEnd
  else if ch = ',' then l.forgetPlace?.map fun l => { l.take .flowEntry 1 with keyAllowed := true }
  else if ch = '-' && endsWord next then l.readEntry?
  else if ch = '?' && indicator then l.readKey?
  else if ch = ':' && indicator then l.readValue?
  else if ch = '*' then l.savePlace?.bind fun l =>
    { l with keyAllowed := false }.readAnchor? .alias
  else if ch = '&' then l.savePlace?.bind fun l =>
    { l with keyAllowed := false }.readAnchor? .anchor
  else if ch = '!' then l.savePlace?.bind fun l => { l with keyAllowed := false }.readTag?
  else if ch = '|' && !l.inFlow then l.readBlock? false
  else if ch = '>' && !l.inFlow then l.readBlock? true
  else if ch = '\'' || ch = '"' then l.readQuoted? ch
  else if startsPlain l.inFlow ch next then l.readPlain?
  else none

def finish? (l : Lexer) : Option (Array Token) :=
  (l.unrollIndent (-1)).forgetPlace?.map (·.tokens)

def run? : Nat → Lexer → Option (Array Token)
  | 0, _ => none
  | fuel + 1, l =>
    match (l.skipToToken (l.cursor.rest.length + 1)).dropStale? with
    | none => none
    | some l =>
      let l := l.unrollIndent l.cursor.column
      match l.cursor.rest with
      | [] => l.finish?
      | ch :: _ =>
        match l.readToken? ch with
        | none => none
        | some l => run? fuel l

end Lexer

def isAllowed (c : Char) : Bool :=
  let n := c.toNat
  n = 0x9 || n = 0xA || n = 0xD || (0x20 ≤ n && n ≤ 0x7E) || n = 0x85 || (0xA0 ≤ n && n ≤ 0xFFFD) ||
    0x10000 ≤ n

def tokens? (cs : List Char) : Option (List Token) :=
  if cs.all isAllowed then ((Lexer.ofChars cs).run? (cs.length + 1)).map Array.toList else none

end StreamPolicy.Yaml
