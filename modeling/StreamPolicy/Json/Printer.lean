import StreamPolicy.Json.Value

/-!
# Writing JSON

The compact form has no blanks. The pretty form puts every item on a line of its own, two spaces
deeper for each level, and leaves an empty array or object as two brackets.
-/

namespace StreamPolicy.Json

/-- Doubles are written positionally from 1e-5 up to below 1e16, and always with a point or an
exponent. -/
def Number.layout : Decimal.Layout := ⟨-5, 16, "+"⟩

/-- The text of a number; a double that is not finite has none of its own and is written `null`. -/
def Number.text : Number → String
  | .int n => Text.ofInt n
  | .float bits => if Decimal.isFinite bits then layout.ofBits bits else "null"

def hexPair (n : Nat) : List Char :=
  [(Nat.digitChar (n / 16)), (Nat.digitChar (n % 16))]

def escapeChar (c : Char) : List Char :=
  if c = '"' then ['\\', '"']
  else if c = '\\' then ['\\', '\\']
  else if c = '\n' then ['\\', 'n']
  else if c = '\r' then ['\\', 'r']
  else if c = '\t' then ['\\', 't']
  else if c.toNat = 8 then ['\\', 'b']
  else if c.toNat = 12 then ['\\', 'f']
  else if c.toNat < 0x20 then "\\u00".toList ++ hexPair c.toNat
  else [c]

def quoteChars (s : List Char) : List Char :=
  '"' :: (s.flatMap escapeChar ++ ['"'])

mutual

def Value.compactChars : Value → List Char
  | .null => "null".toList
  | .bool true => "true".toList
  | .bool false => "false".toList
  | .num n => n.text.toList
  | .str s => quoteChars s.toList
  | .arr items => '[' :: (compactItems items ++ [']'])
  | .obj ms => '\x7b' :: (compactMembers ms ++ ['\x7d'])

def compactItems : List Value → List Char
  | [] => []
  | [v] => v.compactChars
  | v :: w :: rest => v.compactChars ++ ',' :: compactItems (w :: rest)

def compactMembers : List (String × Value) → List Char
  | [] => []
  | [(k, v)] => quoteChars k.toList ++ ':' :: v.compactChars
  | (k, v) :: m :: rest =>
    quoteChars k.toList ++ ':' :: (v.compactChars ++ ',' :: compactMembers (m :: rest))

end

def newLine (level : Nat) : List Char :=
  '\n' :: List.replicate (2 * level) ' '

mutual

/-- The pretty form of a value at a level. -/
def Value.prettyChars (level : Nat) : Value → List Char
  | .null => "null".toList
  | .bool true => "true".toList
  | .bool false => "false".toList
  | .num n => n.text.toList
  | .str s => quoteChars s.toList
  | .arr [] => ['[', ']']
  | .arr (v :: rest) => '[' :: (prettyItems (level + 1) (v :: rest) ++ newLine level ++ [']'])
  | .obj [] => ['\x7b', '\x7d']
  | .obj (m :: rest) =>
    '\x7b' :: (prettyMembers (level + 1) (m :: rest) ++ newLine level ++ ['\x7d'])

def prettyItems (level : Nat) : List Value → List Char
  | [] => []
  | [v] => newLine level ++ v.prettyChars level
  | v :: w :: rest => newLine level ++ v.prettyChars level ++ ',' :: prettyItems level (w :: rest)

def prettyMembers (level : Nat) : List (String × Value) → List Char
  | [] => []
  | [(k, v)] => newLine level ++ quoteChars k.toList ++ ':' :: ' ' :: v.prettyChars level
  | (k, v) :: m :: rest =>
    newLine level ++ quoteChars k.toList ++ ':' :: ' ' :: v.prettyChars level ++
      ',' :: prettyMembers level (m :: rest)

end

def Value.compact (v : Value) : String :=
  String.ofList v.compactChars

def Value.pretty (v : Value) : String :=
  String.ofList (v.prettyChars 0)

end StreamPolicy.Json
