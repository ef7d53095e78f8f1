/-!
# The shortest decimal of a double

A finite double stands for an interval of reals, those that round to it. The decimal chosen for it
has the fewest digits of any in that interval, and among those it is the one nearest to the double.
All arithmetic is exact, on natural numbers: a double is given by its 64 bits.
-/

namespace StreamPolicy.Decimal

/-- A decimal `digits * 10 ^ exponent`. -/
structure Scientific where
  digits : Nat
  exponent : Int
  deriving Repr, DecidableEq

/-- A positive double as an exact fraction with the two ends of the interval that rounds to it. -/
structure Interval where
  low : Nat
  value : Nat
  high : Nat
  den : Nat
  /-- The two ends round to the double as well. -/
  closed : Bool

def isNegative (bits : UInt64) : Bool :=
  bits.toNat ≥ Nat.pow 2 63

def exponentBits (bits : UInt64) : Nat :=
  bits.toNat / Nat.pow 2 52 % 2048

def fractionBits (bits : UInt64) : Nat :=
  bits.toNat % Nat.pow 2 52

def isFinite (bits : UInt64) : Bool :=
  exponentBits bits ≠ 2047

def isZero (bits : UInt64) : Bool :=
  exponentBits bits = 0 && fractionBits bits = 0

/-- The interval of a finite double other than zero, without its sign. -/
def interval (bits : UInt64) : Interval :=
  let e := exponentBits bits
  let f := fractionBits bits
  let m := if e = 0 then f else f + Nat.pow 2 52
  let q : Int := if e = 0 then -1076 else (e : Int) - 1077
  let below := if f = 0 && e > 1 then 1 else 2
  let scale := Nat.pow 2 q.toNat
  ⟨(4 * m - below) * scale, 4 * m * scale, (4 * m + 2) * scale, Nat.pow 2 (-q).toNat, m % 2 = 0⟩

def digitCount (n : Nat) : Nat :=
  (Nat.toDigits 10 n).length

/-- The greatest power of ten that is at most the fraction. -/
def leadingExponent (num den : Nat) : Int :=
  if num ≥ den then (digitCount (num / den) : Int) - 1
  else -(digitCount ((den - 1) / num) : Int)

def Interval.holds (i : Interval) (d : Nat) (g : Int) : Bool :=
  let x := d * Nat.pow 10 g.toNat * i.den
  let s := Nat.pow 10 (-g).toNat
  if i.closed then i.low * s ≤ x && x ≤ i.high * s else i.low * s < x && x < i.high * s

/-- The decimal of `n` digits that stands for the double, if there is one: of the two neighbours of
the double on that grid the nearer one that lies in the interval, and the even one at a tie. -/
def Interval.onGrid? (i : Interval) (n : Nat) : Option Scientific :=
  let g := leadingExponent i.value i.den - ((n : Int) - 1)
  let num := i.value * Nat.pow 10 (-g).toNat
  let den := i.den * Nat.pow 10 g.toNat
  let d := num / den
  let rest := 2 * (num % den)
  let lowHolds := i.holds d g
  let highHolds := i.holds (d + 1) g
  let takeLow := lowHolds && (!highHolds || rest < den || (rest = den && d % 2 = 0))
  if takeLow then some ⟨d, g⟩ else if highHolds then some ⟨d + 1, g⟩ else none

/-- The first of the grids of `n`, `n + 1`, … digits with a decimal for the double; `fuel` grids
are tried. -/
def Interval.firstFrom (i : Interval) (n : Nat) : Nat → Scientific
  | 0 => ⟨0, 0⟩
  | fuel + 1 => (i.onGrid? n).getD (i.firstFrom (n + 1) fuel)

/-- Zeros at the end of the digits are moved into the exponent; `fuel` bounds their number. -/
def Scientific.strip (s : Scientific) : Nat → Scientific
  | 0 => s
  | fuel + 1 => if s.digits % 10 = 0 then Scientific.strip ⟨s.digits / 10, s.exponent + 1⟩ fuel else s

def shortest (bits : UInt64) : Scientific :=
  ((interval bits).firstFrom 1 17).strip 20

/-- How a number is laid out. -/
structure Layout where
  leastPlain : Int
  leastMarked : Int
  plus : String

/-- Digits with a point after the first `whole` of them, filled up with zeros on either side. -/
def pointed (ds : List Char) (whole : Int) : List Char :=
  if whole ≤ 0 then "0.".toList ++ List.replicate (-whole).toNat '0' ++ ds
  else
    let before := ds.take whole.toNat ++ List.replicate (whole.toNat - ds.length) '0'
    let behind := ds.drop whole.toNat
    before ++ '.' :: (if behind.isEmpty then ['0'] else behind)

/-- A decimal laid out: positionally for exponents of the first digit in the range, else as one
digit, the others after a point, and the exponent. -/
def Layout.text (l : Layout) (s : Scientific) : List Char :=
  let ds := Nat.toDigits 10 s.digits
  let x := s.exponent + (ds.length : Int) - 1
  if l.leastPlain ≤ x && x < l.leastMarked then pointed ds (x + 1)
  else
    let mantissa := if ds.length ≤ 1 then ds else ds.take 1 ++ '.' :: ds.drop 1
    let sign := if x < 0 then "-" else l.plus
    mantissa ++ 'e' :: sign.toList ++ Nat.toDigits 10 x.natAbs

def Layout.ofBits (l : Layout) (bits : UInt64) : String :=
  let sign := if isNegative bits then ['-'] else []
  let body := if isZero bits then "0.0".toList else l.text (shortest bits)
  String.ofList (sign ++ body)

end StreamPolicy.Decimal
