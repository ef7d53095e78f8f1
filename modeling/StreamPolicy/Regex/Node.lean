import StreamPolicy.Regex.Syntax
import StreamPolicy.Unicode.Lookup

/-!
# What patterns mean

`Ast.toNode?` resolves the flags of a pattern: every class becomes a set of characters and every
anchor a look at the characters around a position. A pattern that could match a part of a character
is refused: where Unicode is off, no class may be negated and no dot may stand.
-/

namespace StreamPolicy.Regex

open StreamPolicy.Unicode

/-- A look at the characters around a position. The truth value of those for words says whether
they know all of Unicode. -/
inductive Look where
  | start
  | stop
  /-- The start of a line; with `true` a carriage return ends a line as well. -/
  | lineStart (crlf : Bool)
  | lineEnd (crlf : Bool)
  | word (unicode : Bool)
  | notWord (unicode : Bool)
  | wordStart (unicode : Bool)
  | wordEnd (unicode : Bool)
  | wordStartHalf (unicode : Bool)
  | wordEndHalf (unicode : Bool)
  deriving DecidableEq, Repr

inductive Node where
  | empty
  | chars (s : CharSet)
  | look (l : Look)
  | cat (parts : List Node)
  | alt (branches : List Node)
  /-- A pattern a number of times; without a greatest number, any number from the least on. -/
  | repeated (min : Nat) (max : Option Nat) (a : Node)
  | group (a : Node)
  deriving Repr, Inhabited

mutual

def Node.isEmptyOnly : Node → Bool
  | .empty => true
  | .chars _ => false
  | .look _ => true
  | .cat parts => areEmptyOnly parts
  | .alt branches => areEmptyOnly branches
  | .repeated _ max a => max == some 0 || a.isEmptyOnly
  | .group a => a.isEmptyOnly

def areEmptyOnly : List Node → Bool
  | [] => true
  | n :: rest => n.isEmptyOnly && areEmptyOnly rest

end

/-- A pattern a number of times. One that matches the empty text alone matches no more when it is
repeated, so it stands at most once. -/
def Node.times (min : Nat) (max : Option Nat) (a : Node) : Node :=
  if a.isEmptyOnly then .repeated (Nat.min min 1) (some (Nat.min (max.getD 1) 1)) a
  else .repeated min max a

structure Flags where
  caseInsensitive : Bool
  multiLine : Bool
  dotMatchesNewline : Bool
  unicode : Bool
  crlf : Bool

def Flags.initial : Flags :=
  ⟨false, false, false, true, false⟩

def Flags.set (fs : Flags) (f : Flag) (value : Bool) : Flags :=
  match f with
  | .caseInsensitive => { fs with caseInsensitive := value }
  | .multiLine => { fs with multiLine := value }
  | .dotMatchesNewline => { fs with dotMatchesNewline := value }
  | .unicode => { fs with unicode := value }
  | .crlf => { fs with crlf := value }
  | .swapGreed => fs
  | .ignoreBlanks => fs

def Flags.apply (fs : Flags) (settings : FlagSettings) : Flags :=
  settings.foldl (fun fs (f, value) => fs.set f value) fs

/-- The set with both cases of its letters, where case does not count. -/
def Flags.fold (fs : Flags) (s : CharSet) : CharSet :=
  if !fs.caseInsensitive then s
  else if fs.unicode then s.foldCase
  else s.foldAsciiCase

/-- The opposite of a set, which only Unicode sets have. -/
def Flags.negate? (fs : Flags) (negated : Bool) (s : CharSet) : Option CharSet :=
  if !negated then some s
  else if fs.unicode then some s.complement
  else none

/-- The code point of a character in a class. Where Unicode is off it must be one of ASCII. -/
def Flags.classCode? (fs : Flags) (l : Literal) : Option Nat :=
  if fs.unicode || l.char.toNat < 0x80 then some l.char.toNat else none

def Flags.shortClass? (fs : Flags) (c : ShortClass) (negated : Bool) : Option CharSet :=
  let set :=
    match c, fs.unicode with
    | .digit, true => digits
    | .space, true => blanks
    | .word, true => wordChars
    | .digit, false => .ofRanges [(48, 57)]
    | .space, false => .ofRanges [(9, 13), (32, 32)]
    | .word, false => .ofRanges [(48, 57), (65, 90), (95, 95), (97, 122)]
  fs.negate? negated set

def Flags.property? (fs : Flags) (q : Query) (negated : Bool) : Option CharSet :=
  if !fs.unicode then none
  else
    let set? :=
      match q with
      | .named name => named? name
      | .valued property value => valued? property value
    set?.bind fun s => fs.negate? negated (fs.fold s)

def SetOp.apply (op : SetOp) (a b : CharSet) : CharSet :=
  match op with
  | .inter => a.inter b
  | .diff => a.diff b
  | .symmDiff => a.symmDiff b

mutual

def Flags.classSet? (fs : Flags) : ClassExpr → Option CharSet
  | .literal l => (fs.classCode? l).map fun n => .ofRanges [(n, n)]
  | .range lo hi =>
    match fs.classCode? lo, fs.classCode? hi with
    | some a, some b => some (.ofRanges [(a, b)])
    | _, _ => none
  | .ascii ranges negated => fs.negate? negated (fs.fold (.ofRanges ranges))
  | .short c negated => fs.shortClass? c negated
  | .property q negated => fs.property? q negated
  | .bracket negated inner =>
    match fs.classSet? inner with
    | some s => fs.negate? negated (fs.fold s)
    | none => none
  | .union parts => (fs.unionRanges? parts).map .ofRanges
  | .binary op a b =>
    match fs.classSet? a, fs.classSet? b with
    | some s, some t => some (op.apply (fs.fold s) (fs.fold t))
    | _, _ => none

def Flags.unionRanges? (fs : Flags) : List ClassExpr → Option (List (Nat × Nat))
  | [] => some []
  | p :: rest =>
    match fs.classSet? p, fs.unionRanges? rest with
    | some s, some rs => some (s.ranges ++ rs)
    | _, _ => none

end

def Flags.literalNode? (fs : Flags) (l : Literal) : Option Node :=
  if !fs.unicode && l.byte && l.char.toNat > 0x7F then none
  else some (.chars (fs.fold (.ofChars [l.char])))

def Flags.dotNode? (fs : Flags) : Option Node :=
  if !fs.unicode then none
  else if fs.dotMatchesNewline then some (.chars .all)
  else if fs.crlf then some (.chars (CharSet.ofChars ['\n', '\r']).complement)
  else some (.chars (CharSet.ofChars ['\n']).complement)

def Flags.look (fs : Flags) : Anchor → Look
  | .startLine => if fs.multiLine then .lineStart fs.crlf else .start
  | .endLine => if fs.multiLine then .lineEnd fs.crlf else .stop
  | .startText => .start
  | .endText => .stop
  | .wordBoundary => .word fs.unicode
  | .notWordBoundary => .notWord fs.unicode
  | .wordStart => .wordStart fs.unicode
  | .wordEnd => .wordEnd fs.unicode
  | .wordStartHalf => .wordStartHalf fs.unicode
  | .wordEndHalf => .wordEndHalf fs.unicode

mutual

/-- The node of a pattern under some flags, and the flags behind it: flags that stand alone hold up
to the end of the group around them, across its branches. -/
def Ast.node? (fs : Flags) : Ast → Option (Node × Flags)
  | .empty => some (.empty, fs)
  | .flags settings => some (.empty, fs.apply settings)
  | .literal l => (fs.literalNode? l).map (·, fs)
  | .dot => fs.dotNode?.map (·, fs)
  | .anchor a => some (.look (fs.look a), fs)
  | .short c negated => (fs.shortClass? c negated).map (.chars ·, fs)
  | .property q negated => (fs.property? q negated).map (.chars ·, fs)
  | .bracket negated inner =>
    ((fs.classSet? inner).bind fun s => fs.negate? negated (fs.fold s)).map (.chars ·, fs)
  | .repetition min max a => (a.node? fs).map fun (n, fs) => (.times min max n, fs)
  | .group captures settings a =>
    (a.node? (fs.apply settings)).map fun (n, _) => (if captures then .group n else n, fs)
  | .alternation branches => (nodes? fs branches).map fun (ns, fs) => (.alt ns, fs)
  | .concat parts => (nodes? fs parts).map fun (ns, fs) => (.cat ns, fs)

/-- The nodes of some patterns, the flags behind each in force for the next. -/
def nodes? (fs : Flags) : List Ast → Option (List Node × Flags)
  | [] => some ([], fs)
  | a :: rest =>
    match a.node? fs with
    | none => none
    | some (n, fs) => (nodes? fs rest).map fun (ns, fs) => (n :: ns, fs)

end

def Ast.toNode? (a : Ast) : Option Node :=
  (a.node? .initial).map Prod.fst

end StreamPolicy.Regex
