import StreamPolicy.Text.Utf8

/-!
# Bytes in links

A character of a link stands for itself or is written as the escapes of its UTF-8 bytes. Decoding
takes every well-formed escape and leaves all else as it is.

In Base64 three bytes become four characters of the alphabet whose last two are `-` and `_`; a shorter
last group is filled up with `=`.
-/

namespace StreamPolicy.Text.Percent

def hexDigit (n : Nat) : Char :=
  if n < 10 then Char.ofNat (48 + n) else Char.ofNat (55 + n)

def hexValue? (b : UInt8) : Option Nat :=
  let n := b.toNat
  if 48 ≤ n && n ≤ 57 then some (n - 48)
  else if 65 ≤ n && n ≤ 70 then some (n - 55)
  else if 97 ≤ n && n ≤ 102 then some (n - 87)
  else none

def escapeByte (b : UInt8) : List Char :=
  ['%', hexDigit (b.toNat / 16), hexDigit (b.toNat % 16)]

/-- The characters that a link keeps as they are: letters and digits of ASCII, and the marks that
have a meaning in a link. -/
def isKept (c : Char) : Bool :=
  c.isAlphanum || ";,/?:@&=+$-_.!~*'()#".toList.contains c

def encodeChar (c : Char) : List Char :=
  if isKept c then [c] else (Utf8.encodeChar c).flatMap escapeByte

def encode (s : List Char) : List Char :=
  s.flatMap encodeChar

/-- Each escape replaced by the byte that it writes. -/
def decodeBytes : List UInt8 → List UInt8
  | 0x25 :: h :: l :: rest =>
    match hexValue? h, hexValue? l with
    | some hi, some lo => UInt8.ofNat (hi * 16 + lo) :: decodeBytes rest
    | _, _ => 0x25 :: decodeBytes (h :: l :: rest)
  | b :: rest => b :: decodeBytes rest
  | [] => []

/-- The text that escapes and plain characters write together. -/
def decode (s : List Char) : List Char :=
  Utf8.decodeLossy (decodeBytes (Utf8.encode s))

end StreamPolicy.Text.Percent

namespace StreamPolicy.Text.Base64

/-- The character for six bits. -/
def digit (n : Nat) : Char :=
  if n < 26 then Char.ofNat (65 + n)
  else if n < 52 then Char.ofNat (71 + n)
  else if n < 62 then Char.ofNat (n - 4)
  else if n = 62 then '-'
  else '_'

def encode : List UInt8 → List Char
  | a :: b :: c :: rest =>
    let n := a.toNat * 65536 + b.toNat * 256 + c.toNat
    digit (n / 262144) :: digit (n / 4096 % 64) :: digit (n / 64 % 64) :: digit (n % 64) ::
      encode rest
  | [a, b] =>
    let n := a.toNat * 1024 + b.toNat * 4
    [digit (n / 4096), digit (n / 64 % 64), digit (n % 64), '=']
  | [a] =>
    let n := a.toNat * 16
    [digit (n / 64), digit (n % 64), '=', '=']
  | [] => []

end StreamPolicy.Text.Base64
