import StreamPolicy.Text.Integer
import StreamPolicy.Text.Search

/-!
# Identifiers of audit entries

An identifier has 128 bits. It is written as 32 hexadecimal digits in five groups; it is read with or
without the hyphens, in braces, or behind its scheme, in letters of either case.
-/

namespace StreamPolicy.Audit

/-- The identifier of an entry, by its hexadecimal digits. -/
structure EntryId where
  digits : List (Fin 16)
  length_eq : digits.length = 32
  deriving DecidableEq

namespace EntryId

def zero : EntryId :=
  ⟨List.replicate 32 0, rfl⟩

def ofDigits? (ds : List (Fin 16)) : Option EntryId :=
  if h : ds.length = 32 then some ⟨ds, h⟩ else none

/-- The two digits of each of some bytes. -/
def digitsOfBytes (bytes : List UInt8) : List (Fin 16) :=
  bytes.flatMap fun b => [Fin.ofNat 16 (b.toNat / 16), Fin.ofNat 16 b.toNat]

/-- A random identifier: its version and its variant are fixed, every other digit is kept. -/
def ofRandom? (ds : List (Fin 16)) : Option EntryId :=
  match ds.drop 16 with
  | variant :: _ => ofDigits? ((ds.set 12 4).set 16 (8 + Fin.ofNat 16 (variant.val % 4)))
  | [] => none

/-- The digits in groups of eight, four, four, four and twelve with hyphens between them. -/
def hyphenated (cs : List Char) : List Char :=
  cs.take 8 ++ '-' :: (cs.drop 8).take 4 ++ '-' :: (cs.drop 12).take 4 ++
    '-' :: (cs.drop 16).take 4 ++ '-' :: cs.drop 20

def chars (id : EntryId) : List Char :=
  hyphenated (id.digits.map fun d => Nat.digitChar d.val)

def text (id : EntryId) : String :=
  String.ofList id.chars

def digit? (c : Char) : Option (Fin 16) :=
  (Text.digitIn? 16 c).map (Fin.ofNat 16)

/-- The identifier that 32 digits write. -/
def ofPlain? (cs : List Char) : Option EntryId :=
  (cs.mapM digit?).bind ofDigits?

/-- The identifier that five groups of digits write. -/
def ofHyphenated? (cs : List Char) : Option EntryId :=
  let plain := cs.filter (· ≠ '-')
  if hyphenated plain = cs then ofPlain? plain else none

/-- The scheme that may stand before an identifier. -/
def scheme : List Char := "urn:uuid:".toList

def braced? : List Char → Option (List Char)
  | '\x7b' :: cs => if cs.getLast? = some '\x7d' then some cs.dropLast else none
  | _ => none

/-- The text behind the scheme, in letters of either case. -/
def afterScheme? (cs : List Char) : Option (List Char) :=
  if (cs.take scheme.length).map Char.toLower = scheme then some (cs.drop scheme.length) else none

def parseChars? (cs : List Char) : Option EntryId :=
  match braced? cs with
  | some inner => ofHyphenated? inner
  | none =>
    match afterScheme? cs with
    | some rest => ofHyphenated? rest
    | none => if cs.length = 32 then ofPlain? cs else ofHyphenated? cs

def parse? (s : String) : Option EntryId :=
  parseChars? s.toList

end EntryId

end StreamPolicy.Audit
