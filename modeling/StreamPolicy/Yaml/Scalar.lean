import StreamPolicy.Decimal.Reading
import StreamPolicy.Json.Value
import StreamPolicy.Yaml.Node

/-!
# What scalars stand for

A plain scalar stands for nothing, a truth value, an integer, a double or a text, by its spelling
alone; a tag of the core schema asks for one of these. Digits behind a zero are a text, an integer
may be written in base 16, 8 or 2, and a number past the range of doubles is a text.
-/

namespace StreamPolicy.Yaml

open StreamPolicy.Json

namespace Tag

def bool : String := "tag:yaml.org,2002:bool"

def int : String := "tag:yaml.org,2002:int"

def float : String := "tag:yaml.org,2002:float"

def null : String := "tag:yaml.org,2002:null"

/-- A tag of a document's own. -/
def isLocal (tag : String) : Bool :=
  match tag.toList with
  | '!' :: _ => true
  | _ => false

end Tag

namespace Scalar

def isNull (s : String) : Bool :=
  s = "null" || s = "Null" || s = "NULL" || s = "~"

def bool? (s : String) : Option Bool :=
  if s = "true" || s = "True" || s = "TRUE" then some true
  else if s = "false" || s = "False" || s = "FALSE" then some false
  else none

def isSigned : List Char → Bool
  | '+' :: _ => true
  | '-' :: _ => true
  | _ => false

def unsigned : List Char → List Char
  | '+' :: r => r
  | '-' :: r => r
  | r => r

def unpositive : List Char → List Char
  | '+' :: r => r
  | r => r

def isPadded (cs : List Char) : Bool :=
  match unsigned cs with
  | '0' :: c :: r => (c :: r).all fun d => (Text.digit? d).isSome
  | _ => false

/-- The digits of a number in base 16, 8 or 2, behind their mark. -/
def based? : List Char → Option (Nat × List Char)
  | '0' :: 'x' :: r => some (16, r)
  | '0' :: 'o' :: r => some (8, r)
  | '0' :: 'b' :: r => some (2, r)
  | _ => none

def natUpTo? (base max : Nat) (cs : List Char) : Option Nat :=
  (Text.natIn? base cs).filter (· ≤ max)

/-- The integer without a minus sign that a text writes, up to a greatest one. -/
def natural? (max : Nat) (cs : List Char) : Option Nat :=
  let r := unpositive cs
  match based? r with
  | some (base, digits) => natUpTo? base max digits
  | none => if isSigned r || isPadded cs then none else natUpTo? 10 max r

/-- The integer with a minus sign that a text writes, down to the negative of a bound. -/
def negative? (bound : Nat) : List Char → Option Int
  | '-' :: r =>
    match based? r with
    | some (base, digits) => (natUpTo? base bound digits).map fun n => -(n : Int)
    | none => if isPadded r then none else (natUpTo? 10 bound r).map fun n => -(n : Int)
  | _ => none

/-- An integer, or one too long to be held. -/
inductive Whole where
  | held (n : Int)
  | tooLong

def whole? (cs : List Char) : Option Whole :=
  match natural? Text.uint64Max cs with
  | some n => some (.held n)
  | none =>
    match negative? (Nat.pow 2 63) cs with
    | some n => some (.held n)
    | none =>
      if (natural? (Nat.pow 2 128 - 1) cs).isSome || (negative? (Nat.pow 2 127) cs).isSome then some .tooLong
      else none

/-- The exponent that a text writes behind its mark: an optional sign and digits up to the end. -/
def exponent? : List Char → Option Int
  | '-' :: r => (Text.natIn? 10 r).map fun n => -(n : Int)
  | '+' :: r => (Text.natIn? 10 r).map fun n => (n : Int)
  | r => (Text.natIn? 10 r).map fun n => (n : Int)

def digitsThen (cs : List Char) : List Char × List Char :=
  (cs.takeWhile fun c => (Text.digit? c).isSome, cs.dropWhile fun c => (Text.digit? c).isSome)

def decimal? (negative : Bool) (cs : List Char) : Option UInt64 :=
  let (whole, rest) := digitsThen cs
  let (fraction, rest) :=
    match rest with
    | '.' :: r => digitsThen r
    | r => ([], r)
  match Text.natIn? 10 (whole ++ fraction) with
  | none => none
  | some n =>
    let exponent : Option Int :=
      match rest with
      | [] => some 0
      | 'e' :: r => exponent? r
      | 'E' :: r => exponent? r
      | _ => none
    exponent.map fun e => Decimal.nearest negative n (e - fraction.length)

/-- The spellings of what a double can hold and no number is. -/
def unbounded : List String :=
  [".inf", ".Inf", ".INF", "+.inf", "+.Inf", "+.INF", "-.inf", "-.Inf", "-.INF", ".nan", ".NaN",
    ".NAN"]

/-- The double that a text writes, with at most one sign. An infinity, and what is no number, has no
value and gives `null`. -/
def double? (s : String) : Option Value :=
  let cs := s.toList
  let r := unpositive cs
  if s ∈ unbounded then some .null
  else if r.length < cs.length && isSigned r then none
  else
    let bits :=
      match r with
      | '-' :: r => decimal? true r
      | r => decimal? false r
    (bits.filter Decimal.isFinite).map fun b => .num (.float b)

def ofWhole? : Whole → Option Value
  | .held n => some (.num (.int n))
  | .tooLong => none

def plain? (s : String) : Option Value :=
  if s = "" || isNull s then some .null
  else
    match bool? s with
    | some b => some (.bool b)
    | none =>
      match whole? s.toList with
      | some w => ofWhole? w
      | none =>
        if isPadded s.toList then some (.str s)
        else
          match double? s with
          | some v => some v
          | none => some (.str s)

/-- The value of a scalar with a tag. A tag of the document's own has no value. -/
def tagged? (tag s : String) : Option Value :=
  if tag = Tag.bool then (bool? s).map .bool
  else if tag = Tag.int then (whole? s.toList).bind ofWhole?
  else if tag = Tag.float then double? s
  else if tag = Tag.null then if isNull s then some .null else none
  else if Tag.isLocal tag then none
  else some (.str s)

def value? (tag : Option String) (style : Style) (s : String) : Option Value :=
  match tag with
  | some tag => tagged? tag s
  | none => if style = .plain then plain? s else some (.str s)

/-- A scalar that asks for a kind of value is plain, or a block with the tag of that kind. -/
def asksFor (kind : String) (tag : Option String) (style : Style) : Bool :=
  style = .plain || (style = .literal && tag = some kind)

def truth? (tag : Option String) (style : Style) (s : String) : Option Bool :=
  if asksFor Tag.bool tag style then bool? s else none

def count? (tag : Option String) (style : Style) (s : String) : Option Nat :=
  if asksFor Tag.int tag style then
    match natural? Text.uint64Max s.toList with
    | some n => some n
    | none => (negative? (Nat.pow 2 63) s.toList).bind fun n => if n = 0 then some 0 else none
  else none

/-- Whether a scalar, where a value or nothing may stand, is nothing. A scalar with the tag of
nothing must spell it. -/
def isNothing? (tag : Option String) (style : Style) (s : String) : Option Bool :=
  if style ≠ .plain then some false
  else
    match tag with
    | some tag =>
      if tag = Tag.null then if isNull s then some true else none
      else some false
    | none => some (s = "" || isNull s)

end Scalar

end StreamPolicy.Yaml
