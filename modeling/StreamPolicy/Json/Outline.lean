import StreamPolicy.Json.Parser

/-!
# Reading the members that count

An outline names the members of an object that a reader takes. What stands behind another name need
only be well formed: it may nest to any depth, and its numbers and code escapes may lie past every
bound. `Outline.parse?` leaves such members out of the value that it reads.
-/

namespace StreamPolicy.Json

def skipExponent? (cs : List Char) : Option (List Char) :=
  match cs with
  | 'e' :: r | 'E' :: r => (exponent? r).map Prod.snd
  | _ => some cs

def skipNumber? (cs : List Char) : Option (List Char) :=
  let whole := cs.takeWhile isDigit
  if whole.isEmpty || (whole.head? = some '0' && whole.length > 1) then none
  else
    match cs.dropWhile isDigit with
    | '.' :: r => if (r.takeWhile isDigit).isEmpty then none else skipExponent? (r.dropWhile isDigit)
    | rest => skipExponent? rest

def skipText? : List Char → Option (List Char)
  | [] => none
  | '"' :: r => some r
  | '\\' :: 'u' :: a :: b :: c :: d :: r =>
    if (Text.natIn? 16 [a, b, c, d]).isSome then skipText? r else none
  | '\\' :: c :: r => if "\"\\/bfnrt".toList.contains c then skipText? r else none
  | c :: r => if c = '\\' || c.toNat < 0x20 then none else skipText? r

mutual

/-- What remains behind the value at the front of a text without leading blanks; `fuel` bounds the
steps. -/
def skipValue? : Nat → List Char → Option (List Char)
  | 0, _ => none
  | fuel + 1, cs =>
    match cs with
    | 'n' :: r => word? "ull".toList r
    | 't' :: r => word? "rue".toList r
    | 'f' :: r => word? "alse".toList r
    | '"' :: r => skipText? r
    | '[' :: r =>
      match skipSpace r with
      | ']' :: rest => some rest
      | r => skipItems? fuel r
    | '\x7b' :: r =>
      match skipSpace r with
      | '\x7d' :: rest => some rest
      | r => skipMembers? fuel r
    | '-' :: r => skipNumber? r
    | cs => skipNumber? cs

def skipItems? : Nat → List Char → Option (List Char)
  | 0, _ => none
  | fuel + 1, cs =>
    match (skipValue? fuel cs).map skipSpace with
    | some (']' :: rest) => some rest
    | some (',' :: rest) => skipItems? fuel (skipSpace rest)
    | _ => none

def skipMembers? : Nat → List Char → Option (List Char)
  | 0, _ => none
  | fuel + 1, cs =>
    match cs with
    | '"' :: r =>
      match (skipText? r).map skipSpace with
      | some (':' :: rest) =>
        match (skipValue? fuel (skipSpace rest)).map skipSpace with
        | some ('\x7d' :: rest) => some rest
        | some (',' :: rest) => skipMembers? fuel (skipSpace rest)
        | _ => none
      | _ => none
    | _ => none

end

/-- What a reader takes of a value. -/
inductive Outline where
  | whole
  /-- The members of these names, in the order in which an array gives them. -/
  | members (fields : List (String × Outline))

namespace Outline

def ofNames (names : List String) : Outline :=
  .members (names.map fun name => (name, .whole))

mutual

/-- The value at the front of a text without leading blanks, as far as an outline takes it. `depth`
more levels may open; `fuel` bounds the steps. -/
def value? : Nat → Nat → Outline → List Char → Option (Value × List Char)
  | 0, _, _, _ => none
  | fuel + 1, depth, .whole, cs => Json.value? (fuel + 1) depth cs
  | fuel + 1, depth, .members fields, cs =>
    match depth, cs with
    | d + 1, '[' :: r =>
      match skipSpace r with
      | ']' :: rest => some (.arr [], rest)
      | r => (items? fuel d (fields.map Prod.snd) r).map fun (vs, rest) => (.arr vs, rest)
    | d + 1, '\x7b' :: r =>
      match skipSpace r with
      | '\x7d' :: rest => some (.obj [], rest)
      | r => (members? fuel d fields r).map fun (ms, rest) => (.obj ms, rest)
    | depth, cs => Json.value? (fuel + 1) depth cs

def items? : Nat → Nat → List Outline → List Char → Option (List Value × List Char)
  | 0, _, _, _ => none
  | fuel + 1, depth, outlines, cs =>
    match value? fuel depth (outlines.head?.getD .whole) cs with
    | none => none
    | some (v, rest) =>
      match skipSpace rest with
      | ']' :: rest => some ([v], rest)
      | ',' :: rest =>
        (items? fuel depth outlines.tail (skipSpace rest)).map fun (vs, rest) => (v :: vs, rest)
      | _ => none

/-- The members of an object up to its closing brace, without those of other names. -/
def members? : Nat → Nat → List (String × Outline) → List Char →
    Option (List (String × Value) × List Char)
  | 0, _, _, _ => none
  | fuel + 1, depth, fields, cs =>
    match cs with
    | '"' :: r =>
      match text? (r.length + 1) r with
      | none => none
      | some (k, rest) =>
        match skipSpace rest with
        | ':' :: rest =>
          let key := String.ofList k
          let taken? :=
            match fields.find? fun f => f.1 = key with
            | some (_, outline) =>
              (value? fuel depth outline (skipSpace rest)).map fun (v, rest) => ([(key, v)], rest)
            | none => (skipValue? fuel (skipSpace rest)).map ([], ·)
          match taken? with
          | none => none
          | some (ms, rest) =>
            match skipSpace rest with
            | '\x7d' :: rest => some (ms, rest)
            | ',' :: rest =>
              (members? fuel depth fields (skipSpace rest)).map fun (more, rest) => (ms ++ more, rest)
            | _ => none
        | _ => none
    | _ => none

end

/-- The value that a whole text writes, as far as an outline takes it, with members as they are
written. -/
def parse? (o : Outline) (s : String) : Option Value :=
  match o.value? (2 * s.length + 2) maxDepth (skipSpace s.toList) with
  | some (v, rest) => if (skipSpace rest).isEmpty then some v else none
  | none => none

end Outline

end StreamPolicy.Json
