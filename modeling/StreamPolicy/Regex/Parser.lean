import StreamPolicy.Regex.Syntax
import StreamPolicy.Text.Integer
import StreamPolicy.Text.Search
import StreamPolicy.Unicode.Lookup

/-!
# Reading patterns

`Ast.parse?` reads a whole pattern. There is no look-around and no back-reference, octal escapes are
refused, and a pattern may nest at most `maxDepth` levels. With the flag `x` blanks and comments are
passed over between tokens, also within classes and counts.
-/

namespace StreamPolicy.Regex

open StreamPolicy

/-- How many levels a pattern may nest. -/
def maxDepth : Nat := 250

def maxCount : Nat := 4294967295

/-- What remains behind leading blanks and comments. -/
def dropIgnored (inComment : Bool) : List Char → List Char
  | [] => []
  | c :: cs =>
    if inComment then dropIgnored (c ≠ '\n') cs
    else if Text.isBlank c then dropIgnored false cs
    else if c = '#' then dropIgnored true cs
    else c :: cs

def skip (ignore : Bool) (cs : List Char) : List Char :=
  if ignore then dropIgnored false cs else cs

/-- The leading characters of a kind, with what does not count passed over behind each; `fuel`
bounds their number. -/
def gather (ignore : Bool) (p : Char → Bool) : Nat → List Char → List Char × List Char
  | fuel + 1, c :: cs =>
    if p c then
      let (taken, rest) := gather ignore p fuel (skip ignore cs)
      (c :: taken, rest)
    else ([], c :: cs)
  | _, cs => ([], cs)

def isDecimal (c : Char) : Bool :=
  '0' ≤ c && c ≤ '9'

def isHex (c : Char) : Bool :=
  (Text.digitIn? 16 c).isSome

def isMeta (c : Char) : Bool :=
  "\\.+*?()|[]\x7b\x7d^$#&-~".toList.contains c

def isEscapable (c : Char) : Bool :=
  isMeta c || (c.toNat < 0x80 && !c.isAlphanum && c ≠ '<' && c ≠ '>')

/-- The character with a code point, unless it is a surrogate or past the last. -/
def charOfCode? (n : Nat) : Option Char :=
  if n < 0xD800 || (0xDFFF < n && n ≤ 0x10FFFF) then some (Char.ofNat n) else none

/-- One token of a pattern that is neither an operator nor a class between brackets. -/
inductive Item where
  | literal (l : Literal)
  | anchor (a : Anchor)
  | short (c : ShortClass) (negated : Bool)
  | property (q : Query) (negated : Bool)

def Item.toAst : Item → Ast
  | .literal l => .literal l
  | .anchor a => .anchor a
  | .short c n => .short c n
  | .property q n => .property q n

def Item.toClass? : Item → Option ClassExpr
  | .literal l => some (.literal l)
  | .anchor _ => none
  | .short c n => some (.short c n)
  | .property q n => some (.property q n)

def Item.toLiteral? : Item → Option Literal
  | .literal l => some l
  | _ => none

def plain (c : Char) : Item :=
  .literal ⟨c, false⟩

def fixedHex? (ignore : Bool) : Nat → List Char → Option (List Char × List Char)
  | 0, cs => some ([], cs)
  | _ + 1, [] => none
  | n + 1, c :: cs =>
    if isHex c then (fixedHex? ignore n (skip ignore cs)).map fun (ds, rest) => (c :: ds, rest)
    else none

/-- A character by its code point: in braces, or in the given number of digits. -/
def codeEscape? (ignore : Bool) (width : Nat) (cs : List Char) : Option (Item × List Char) :=
  match skip ignore cs with
  | [] => none
  | '\x7b' :: r =>
    let (ds, rest) := gather ignore isHex r.length (skip ignore r)
    match rest with
    | '\x7d' :: rest =>
      ((Text.natIn? 16 ds).bind charOfCode?).map fun c => (.literal ⟨c, false⟩, skip ignore rest)
    | _ => none
  | cs =>
    match fixedHex? ignore width cs with
    | none => none
    | some (ds, rest) =>
      ((Text.natIn? 16 ds).bind charOfCode?).map fun c => (.literal ⟨c, width = 2⟩, rest)

/-- The property that a name in braces asks for, and whether it asks for its opposite. -/
def query (name : List Char) : Query × Bool :=
  match Text.cut? ['!', '='] name with
  | some (p, v) => (.valued p v, true)
  | none =>
    match Text.cut? [':'] name with
    | some (p, v) => (.valued p v, false)
    | none =>
      match Text.cut? ['='] name with
      | some (p, v) => (.valued p v, false)
      | none => (.named name, false)

def property? (ignore negated : Bool) (cs : List Char) : Option (Item × List Char) :=
  match skip ignore cs with
  | [] => none
  | '\x7b' :: r =>
    let (name, rest) := gather ignore (· ≠ '\x7d') r.length (skip ignore r)
    match rest with
    | '\x7d' :: rest =>
      let (q, opposite) := query name
      some (.property q (negated ^^ opposite), rest)
    | _ => none
  | '\\' :: _ => none
  | c :: r => some (.property (.named [c]) negated, skip ignore r)

def isBoundaryChar (c : Char) : Bool :=
  c.isAlpha || c = '-'

/-- A word boundary behind its letter: a name in braces makes it a start or an end. Braces that
hold something else are a count. -/
def boundary? (ignore : Bool) (cs : List Char) : Option (Item × List Char) :=
  match cs with
  | '\x7b' :: r =>
    match skip ignore r with
    | [] => none
    | c :: r' =>
      if isBoundaryChar c then
        let (name, rest) := gather ignore isBoundaryChar (r'.length + 1) (c :: r')
        match rest with
        | '\x7d' :: rest =>
          match String.ofList name with
          | "start" => some (.anchor .wordStart, rest)
          | "end" => some (.anchor .wordEnd, rest)
          | "start-half" => some (.anchor .wordStartHalf, rest)
          | "end-half" => some (.anchor .wordEndHalf, rest)
          | _ => none
        | _ => none
      else some (.anchor .wordBoundary, cs)
  | _ => some (.anchor .wordBoundary, cs)

def escape? (ignore : Bool) (cs : List Char) : Option (Item × List Char) :=
  match cs with
  | [] => none
  | 'x' :: r => codeEscape? ignore 2 r
  | 'u' :: r => codeEscape? ignore 4 r
  | 'U' :: r => codeEscape? ignore 8 r
  | 'p' :: r => property? ignore false r
  | 'P' :: r => property? ignore true r
  | 'd' :: r => some (.short .digit false, r)
  | 's' :: r => some (.short .space false, r)
  | 'w' :: r => some (.short .word false, r)
  | 'D' :: r => some (.short .digit true, r)
  | 'S' :: r => some (.short .space true, r)
  | 'W' :: r => some (.short .word true, r)
  | 'a' :: r => some (plain (Char.ofNat 7), r)
  | 'f' :: r => some (plain (Char.ofNat 12), r)
  | 't' :: r => some (plain '\t', r)
  | 'n' :: r => some (plain '\n', r)
  | 'r' :: r => some (plain '\r', r)
  | 'v' :: r => some (plain (Char.ofNat 11), r)
  | 'A' :: r => some (.anchor .startText, r)
  | 'z' :: r => some (.anchor .endText, r)
  | 'b' :: r => boundary? ignore r
  | 'B' :: r => some (.anchor .notWordBoundary, r)
  | '<' :: r => some (.anchor .wordStart, r)
  | '>' :: r => some (.anchor .wordEnd, r)
  | c :: r => if isEscapable c then some (plain c, r) else none

def asciiClass? : String → Option (List (Nat × Nat))
  | "alnum" => some [(48, 57), (65, 90), (97, 122)]
  | "alpha" => some [(65, 90), (97, 122)]
  | "ascii" => some [(0, 127)]
  | "blank" => some [(9, 9), (32, 32)]
  | "cntrl" => some [(0, 31), (127, 127)]
  | "digit" => some [(48, 57)]
  | "graph" => some [(33, 126)]
  | "lower" => some [(97, 122)]
  | "print" => some [(32, 126)]
  | "punct" => some [(33, 47), (58, 64), (91, 96), (123, 126)]
  | "space" => some [(9, 13), (32, 32)]
  | "upper" => some [(65, 90)]
  | "word" => some [(48, 57), (65, 90), (95, 95), (97, 122)]
  | "xdigit" => some [(48, 57), (65, 70), (97, 102)]
  | _ => none

def namedAscii? (cs : List Char) : Option (ClassExpr × List Char) :=
  match cs with
  | ':' :: r =>
    let (negated, r) :=
      match r with
      | '^' :: r => (true, r)
      | r => (false, r)
    match r.dropWhile (· ≠ ':') with
    | ':' :: ']' :: rest =>
      (asciiClass? (String.ofList (r.takeWhile (· ≠ ':')))).map fun rs => (.ascii rs negated, rest)
    | _ => none
  | _ => none

def classItem? (ignore : Bool) (cs : List Char) : Option (Item × List Char) :=
  match cs with
  | [] => none
  | '\\' :: r => escape? ignore r
  | c :: r => some (plain c, r)

/-- The character that decides what the hyphen before it means: the next one, or with blanks ignored
the next past the blanks. Of a comment it is the first that is no blank; where only blanks follow, it
is the next character as it stands. -/
def afterHyphen? (ignore : Bool) (cs : List Char) : Option Char :=
  if !ignore then cs.head?
  else
    match cs.dropWhile Text.isBlank with
    | [] => cs.head?
    | '#' :: comment => (comment.dropWhile Text.isBlank).head? <|> cs.head?
    | c :: _ => some c

/-- A token of a class, or a range between two. A hyphen before the closing bracket or before
another hyphen makes no range. -/
def classRange? (ignore : Bool) (cs : List Char) : Option (ClassExpr × List Char) :=
  match classItem? ignore cs with
  | none => none
  | some (item, rest) =>
    match skip ignore rest with
    | [] => none
    | '-' :: r =>
      match afterHyphen? ignore r with
      | none => none
      | some next =>
        if next = ']' || next = '-' then item.toClass?.map (·, '-' :: r)
        else
          match classItem? ignore (skip ignore r), item.toLiteral? with
          | some (last, rest), some lo =>
            match last.toLiteral? with
            | some hi => if lo.char ≤ hi.char then some (.range lo hi, rest) else none
            | none => none
          | _, _ => none
    | rest => item.toClass?.map (·, rest)

def unionOf : List ClassExpr → ClassExpr
  | [p] => p
  | ps => .union ps

def joinTo (left : Option (SetOp × ClassExpr)) (right : ClassExpr) : ClassExpr :=
  match left with
  | some (op, l) => .binary op l right
  | none => right

/-- The hyphens at the start of a class, which stand for themselves, and what follows. -/
def leadingHyphens (ignore : Bool) (cs : List Char) : List ClassExpr × List Char :=
  let (hyphens, rest) := gather ignore (· = '-') cs.length cs
  (hyphens.map fun c => .literal ⟨c, false⟩, rest)

mutual

/-- A class behind its opening bracket, up to its closing one: whether it is negated, and its
parts. `fuel` bounds the steps. -/
def bracket? : Nat → Bool → List Char → Option (Bool × ClassExpr × List Char)
  | 0, _, _ => none
  | fuel + 1, ignore, cs =>
    let (negated, cs) :=
      match skip ignore cs with
      | '^' :: r => (true, skip ignore r)
      | cs => (false, cs)
    let (hyphens, cs) := leadingHyphens ignore cs
    let (first, cs) :=
      match hyphens, cs with
      | [], ']' :: r => ([ClassExpr.literal ⟨']', false⟩], skip ignore r)
      | hyphens, cs => (hyphens, cs)
    (classItems? fuel ignore none first.reverse cs).map fun (e, rest) => (negated, e, rest)

/-- The parts of a class up to its closing bracket. `done` holds the parts since the last operator,
the newest first. -/
def classItems? : Nat → Bool → Option (SetOp × ClassExpr) → List ClassExpr → List Char →
    Option (ClassExpr × List Char)
  | 0, _, _, _, _ => none
  | fuel + 1, ignore, left, done, cs =>
    match skip ignore cs with
    | [] => none
    | '[' :: r =>
      match namedAscii? r with
      | some (e, rest) => classItems? fuel ignore left (e :: done) rest
      | none =>
        match bracket? fuel ignore r with
        | some (negated, e, rest) =>
          classItems? fuel ignore left (.bracket negated e :: done) rest
        | none => none
    | ']' :: r => some (joinTo left (unionOf done.reverse), r)
    | '&' :: '&' :: r =>
      classItems? fuel ignore (some (.inter, joinTo left (unionOf done.reverse))) [] r
    | '-' :: '-' :: r =>
      classItems? fuel ignore (some (.diff, joinTo left (unionOf done.reverse))) [] r
    | '~' :: '~' :: r =>
      classItems? fuel ignore (some (.symmDiff, joinTo left (unionOf done.reverse))) [] r
    | cs =>
      match classRange? ignore cs with
      | some (e, rest) => classItems? fuel ignore left (e :: done) rest
      | none => none

end

def flag? : Char → Option Flag
  | 'i' => some .caseInsensitive
  | 'm' => some .multiLine
  | 's' => some .dotMatchesNewline
  | 'U' => some .swapGreed
  | 'u' => some .unicode
  | 'R' => some .crlf
  | 'x' => some .ignoreBlanks
  | _ => none

/-- Flags up to a colon or a closing parenthesis: the settings, the character that ended them, and
the rest. No flag may stand twice, and one minus sign may stand before a flag. -/
def flags? (seen : FlagSettings) (value pending : Bool) :
    List Char → Option (FlagSettings × Char × List Char)
  | [] => none
  | c :: cs =>
    if c = ':' || c = ')' then if pending then none else some (seen.reverse, c, cs)
    else if c = '-' then if value then flags? seen false true cs else none
    else
      match flag? c with
      | none => none
      | some f =>
        if seen.any fun (g, _) => g = f then none else flags? ((f, value) :: seen) value false cs

def isNameChar (first : Bool) (c : Char) : Bool :=
  if first then c = '_' || Unicode.letters.contains c
  else c = '_' || c = '.' || c = '[' || c = ']' || Unicode.alphanumerics.contains c

def groupName? (cs : List Char) : Option (List Char × List Char) :=
  let name := cs.takeWhile (· ≠ '>')
  match name, cs.dropWhile (· ≠ '>') with
  | c :: more, '>' :: rest =>
    if isNameChar true c && more.all (isNameChar false) then some (name, rest) else none
  | _, _ => none

/-- What opens behind a parenthesis. -/
inductive Opening where
  | flags (settings : FlagSettings)
  | group (captures : Bool) (name : Option (List Char)) (settings : FlagSettings)

def opening? (cs : List Char) : Option (Opening × List Char) :=
  match cs with
  | '?' :: 'P' :: '<' :: r => (groupName? r).map fun (n, rest) => (.group true (some n) [], rest)
  | '?' :: '<' :: '=' :: _ => none
  | '?' :: '<' :: '!' :: _ => none
  | '?' :: '<' :: r => (groupName? r).map fun (n, rest) => (.group true (some n) [], rest)
  | '?' :: r =>
    match flags? [] true false r with
    | none => none
    | some (settings, ended, rest) =>
      if ended = ')' then if settings.isEmpty then none else some (.flags settings, rest)
      else some (.group false none settings, rest)
  | cs => some (.group true none [], cs)

/-- A decimal number with blanks around it; a value past 32 bits is none. -/
def count? (ignore : Bool) (cs : List Char) : Option Nat × List Char :=
  let (ds, rest) := gather ignore isDecimal cs.length (cs.dropWhile Text.isBlank)
  let rest := if ignore then skip true rest else rest.dropWhile Text.isBlank
  ((Text.natIn? 10 ds).filter (· ≤ maxCount), rest)

def repeat? (ignore : Bool) (cs : List Char) : Option (Nat × Option Nat × List Char) :=
  match count? ignore (skip ignore cs) with
  | (some lo, ',' :: r) =>
    match skip ignore r with
    | '\x7d' :: rest => some (lo, none, rest)
    | r =>
      match count? ignore r with
      | (some hi, '\x7d' :: rest) => if lo ≤ hi then some (lo, some hi, rest) else none
      | _ => none
  | (some n, '\x7d' :: rest) => some (n, some n, rest)
  | _ => none

/-- The branches of a group that are finished, and the parts of the open one, the newest first. -/
structure Level where
  branches : List Ast
  parts : List Ast

structure OpenGroup where
  captures : Bool
  settings : FlagSettings
  outer : Level
  ignore : Bool

def concatOf : List Ast → Ast
  | [] => .empty
  | [a] => a
  | parts => .concat parts.reverse

def Level.toAst (l : Level) : Ast :=
  match l.branches with
  | [] => concatOf l.parts
  | branches => .alternation (branches.reverse ++ [concatOf l.parts])

def Level.push (l : Level) (a : Ast) : Level :=
  { l with parts := a :: l.parts }

/-- The level with its last part repeated; flags cannot be repeated, nor can nothing. -/
def Level.repeat? (l : Level) (min : Nat) (max : Option Nat) : Option Level :=
  match l.parts with
  | [] => none
  | .flags _ :: _ => none
  | .empty :: _ => none
  | a :: rest => some { l with parts := .repetition min max a :: rest }

def settingOf (settings : FlagSettings) (f : Flag) (default : Bool) : Bool :=
  ((settings.find? fun (g, _) => g = f).map Prod.snd).getD default

def dropLazy : List Char → List Char
  | '?' :: r => r
  | r => r

/-- Reads a pattern to its end. `fuel` bounds the tokens. -/
def run : Nat → Bool → List (List Char) → List OpenGroup → Level → List Char → Option Ast
  | 0, _, _, _, _, _ => none
  | fuel + 1, ignore, names, stack, level, cs =>
    let repeatLast (min : Nat) (max : Option Nat) (rest : List Char) : Option Ast :=
      match level.repeat? min max with
      | some level => run fuel ignore names stack level rest
      | none => none
    match skip ignore cs with
    | [] => if stack.isEmpty then some level.toAst else none
    | '(' :: r =>
      match opening? (skip ignore r) with
      | none => none
      | some (.flags settings, rest) =>
        run fuel (settingOf settings .ignoreBlanks ignore) names stack (level.push (.flags settings)) rest
      | some (.group captures name settings, rest) =>
        if name.any names.contains then none
        else
          run fuel (settingOf settings .ignoreBlanks ignore) (name.toList ++ names)
            (⟨captures, settings, level, ignore⟩ :: stack) ⟨[], []⟩ rest
    | ')' :: r =>
      match stack with
      | [] => none
      | g :: stack =>
        run fuel g.ignore names stack (g.outer.push (.group g.captures g.settings level.toAst)) r
    | '|' :: r => run fuel ignore names stack ⟨concatOf level.parts :: level.branches, []⟩ r
    | '[' :: r =>
      match bracket? (2 * r.length + 2) ignore r with
      | some (negated, e, rest) => run fuel ignore names stack (level.push (.bracket negated e)) rest
      | none => none
    | '?' :: r => repeatLast 0 (some 1) (dropLazy r)
    | '*' :: r => repeatLast 0 none (dropLazy r)
    | '+' :: r => repeatLast 1 none (dropLazy r)
    | '\x7b' :: r =>
      match Regex.repeat? ignore r with
      | some (lo, hi, rest) => repeatLast lo hi (dropLazy (skip ignore rest))
      | none => none
    | '\\' :: r =>
      match escape? ignore r with
      | some (item, rest) => run fuel ignore names stack (level.push item.toAst) rest
      | none => none
    | '.' :: r => run fuel ignore names stack (level.push .dot) r
    | '^' :: r => run fuel ignore names stack (level.push (.anchor .startLine)) r
    | '$' :: r => run fuel ignore names stack (level.push (.anchor .endLine)) r
    | c :: r => run fuel ignore names stack (level.push (.literal ⟨c, false⟩)) r

def Ast.parse? (cs : List Char) : Option Ast :=
  match run (cs.length + 1) false [] [] ⟨[], []⟩ cs with
  | some a => if a.depth ≤ maxDepth then some a else none
  | none => none

end StreamPolicy.Regex
