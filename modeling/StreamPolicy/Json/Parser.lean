import StreamPolicy.Decimal.Reading
import StreamPolicy.Json.Value

/-!
# Reading JSON

`Value.parse?` reads a whole text as one value. It refuses a text that nests more than 127 levels
deep, a number past the range of doubles, an unescaped control character and a lone surrogate. Of
two members with one key the later counts; `Value.parseWritten?` keeps both, in the order of the
text.
-/

namespace StreamPolicy.Json

def isSpace (c : Char) : Bool :=
  c = ' ' || c = '\n' || c = '\t' || c = '\r'

def skipSpace (cs : List Char) : List Char :=
  cs.dropWhile isSpace

def isDigit (c : Char) : Bool :=
  '0' ≤ c && c ≤ '9'

/-- A number without point and exponent: an integer of 64 bits with or without sign, else a double.
A zero with a minus sign is a double. -/
def integer? (negative : Bool) (digits : List Char) : Option Number :=
  let n := (Text.natIn? 10 digits).getD 0
  if n > Text.uint64Max then (Decimal.readScaled? negative digits [] 0).map .float
  else if !negative then some (.int n)
  else if n = 0 || n > 9223372036854775808 then
    (Decimal.readScaled? negative digits [] 0).map .float
  else some (.int (-n))

def maxExponent : Nat := 2147483647

def double? (negative : Bool) (whole fraction : List Char) (exponent : Int) : Option Number :=
  if exponent.natAbs > maxExponent then
    if (whole ++ fraction).all (· = '0') || exponent < 0 then
      (Decimal.scaled? negative 0 0).map .float
    else none
  else (Decimal.readScaled? negative whole fraction exponent).map .float

/-- The exponent after its mark: an optional sign and at least one digit. -/
def exponent? (cs : List Char) : Option (Int × List Char) :=
  let (negative, rest) :=
    match cs with
    | '-' :: r => (true, r)
    | '+' :: r => (false, r)
    | r => (false, r)
  let digits := rest.takeWhile isDigit
  (Text.natIn? 10 digits).map fun n => (if negative then -(n : Int) else n, rest.dropWhile isDigit)

def number? (negative : Bool) (cs : List Char) : Option (Number × List Char) :=
  let whole := cs.takeWhile isDigit
  let rest := cs.dropWhile isDigit
  if whole.isEmpty || (whole.head? = some '0' && whole.length > 1) then none
  else
    match rest with
    | '.' :: r =>
      let fraction := r.takeWhile isDigit
      let rest := r.dropWhile isDigit
      if fraction.isEmpty then none
      else
        match rest with
        | 'e' :: r | 'E' :: r =>
          (exponent? r).bind fun (e, rest) => (double? negative whole fraction e).map (·, rest)
        | _ => (double? negative whole fraction 0).map (·, rest)
    | 'e' :: r | 'E' :: r =>
      (exponent? r).bind fun (e, rest) => (double? negative whole [] e).map (·, rest)
    | _ => (integer? negative whole).map (·, rest)

def hexUnit? : List Char → Option (Nat × List Char)
  | a :: b :: c :: d :: rest => (Text.natIn? 16 [a, b, c, d]).map (·, rest)
  | _ => none

/-- The character that a code escape writes, behind its `u`; two escapes write one character past
the first 65536. -/
def codeEscape? (cs : List Char) : Option (Char × List Char) :=
  match hexUnit? cs with
  | none => none
  | some (n, rest) =>
    if 0xD800 ≤ n && n ≤ 0xDBFF then
      match rest with
      | '\\' :: 'u' :: r =>
        match hexUnit? r with
        | some (m, rest) =>
          if 0xDC00 ≤ m && m ≤ 0xDFFF then
            some (Char.ofNat (0x10000 + (n - 0xD800) * 1024 + (m - 0xDC00)), rest)
          else none
        | none => none
      | _ => none
    else if 0xDC00 ≤ n && n ≤ 0xDFFF then none
    else some (Char.ofNat n, rest)

def escape? : List Char → Option (Char × List Char)
  | '"' :: r => some ('"', r)
  | '\\' :: r => some ('\\', r)
  | '/' :: r => some ('/', r)
  | 'b' :: r => some (Char.ofNat 8, r)
  | 'f' :: r => some (Char.ofNat 12, r)
  | 'n' :: r => some ('\n', r)
  | 'r' :: r => some ('\r', r)
  | 't' :: r => some ('\t', r)
  | 'u' :: r => codeEscape? r
  | _ => none

/-- The characters of a text up to its closing quote; `fuel` bounds their number. -/
def text? : Nat → List Char → Option (List Char × List Char)
  | 0, _ => none
  | _, [] => none
  | fuel + 1, c :: cs =>
    if c = '"' then some ([], cs)
    else if c = '\\' then
      match escape? cs with
      | some (d, rest) => (text? fuel rest).map fun (s, rest) => (d :: s, rest)
      | none => none
    else if c.toNat < 0x20 then none
    else (text? fuel cs).map fun (s, rest) => (c :: s, rest)

def word? : List Char → List Char → Option (List Char)
  | [], cs => some cs
  | w :: ws, c :: cs => if w = c then word? ws cs else none
  | _ :: _, [] => none

mutual

/-- The value at the front of a text without leading blanks. `depth` more levels may open; `fuel`
bounds the steps. -/
def value? : Nat → Nat → List Char → Option (Value × List Char)
  | 0, _, _ => none
  | fuel + 1, depth, cs =>
    match cs with
    | 'n' :: r => (word? "ull".toList r).map (Value.null, ·)
    | 't' :: r => (word? "rue".toList r).map (Value.bool true, ·)
    | 'f' :: r => (word? "alse".toList r).map (Value.bool false, ·)
    | '"' :: r => (text? (r.length + 1) r).map fun (s, rest) => (.str (String.ofList s), rest)
    | '[' :: r =>
      match depth with
      | 0 => none
      | d + 1 =>
        match skipSpace r with
        | ']' :: rest => some (.arr [], rest)
        | r => (items? fuel d r).map fun (vs, rest) => (.arr vs, rest)
    | '\x7b' :: r =>
      match depth with
      | 0 => none
      | d + 1 =>
        match skipSpace r with
        | '\x7d' :: rest => some (.obj [], rest)
        | r => (members? fuel d r).map fun (ms, rest) => (.obj ms, rest)
    | '-' :: r => (number? true r).map fun (n, rest) => (.num n, rest)
    | cs => (number? false cs).map fun (n, rest) => (.num n, rest)

def items? : Nat → Nat → List Char → Option (List Value × List Char)
  | 0, _, _ => none
  | fuel + 1, depth, cs =>
    match value? fuel depth cs with
    | none => none
    | some (v, rest) =>
      match skipSpace rest with
      | ']' :: rest => some ([v], rest)
      | ',' :: rest => (items? fuel depth (skipSpace rest)).map fun (vs, rest) => (v :: vs, rest)
      | _ => none

/-- The members of an object up to its closing brace, as they are written. -/
def members? : Nat → Nat → List Char → Option (List (String × Value) × List Char)
  | 0, _, _ => none
  | fuel + 1, depth, cs =>
    match cs with
    | '"' :: r =>
      match text? (r.length + 1) r with
      | none => none
      | some (k, rest) =>
        match skipSpace rest with
        | ':' :: rest =>
          match value? fuel depth (skipSpace rest) with
          | none => none
          | some (v, rest) =>
            match skipSpace rest with
            | '\x7d' :: rest => some ([(String.ofList k, v)], rest)
            | ',' :: rest =>
              (members? fuel depth (skipSpace rest)).map fun (ms, rest) =>
                ((String.ofList k, v) :: ms, rest)
            | _ => none
        | _ => none
    | _ => none

end

def maxDepth : Nat := 127

/-- The value that a whole text writes, with members as they are written. -/
def Value.parseWritten? (s : String) : Option Value :=
  match value? (2 * s.length + 2) maxDepth (skipSpace s.toList) with
  | some (v, rest) => if (skipSpace rest).isEmpty then some v else none
  | none => none

def Value.parse? (s : String) : Option Value :=
  (Value.parseWritten? s).map Value.sorted

end StreamPolicy.Json
