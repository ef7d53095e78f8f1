import StreamPolicy.Text.Integer

/-!
# Reading doubles

Two rules turn decimal digits into a double. The exact rule rounds the decimal to the nearest
double. The scaled rule keeps as many leading digits as fit in 64 bits, drops the digits behind
them, and scales the kept ones by powers of ten in double arithmetic; it refuses a number that
overflows.
-/

namespace StreamPolicy.Decimal

/-- The double nearest to a decimal, as bits; a value past the range becomes an infinity. -/
def nearest (negative : Bool) (digits : Nat) (exponent : Int) : UInt64 :=
  let size := ((Nat.toDigits 10 digits).length : Int) + exponent
  let f : Float :=
    if digits = 0 || size < -400 then 0.0
    else if size > 400 then 1.0 / 0.0
    else if exponent < 0 then Float.ofScientific digits true exponent.natAbs
    else Float.ofScientific digits false exponent.natAbs
  (if negative then -f else f).toBits

def tenTo (n : Nat) : Float :=
  Float.ofScientific 1 false n

/-- A double scaled by a power of ten, in steps of at most 308; nothing for an overflow. -/
def scale? : Nat → Float → Int → Option Float
  | 0, f, _ => some f
  | steps + 1, f, exponent =>
    if exponent.natAbs ≤ 308 then
      if exponent ≥ 0 then
        let scaled := f * tenTo exponent.natAbs
        if scaled.isInf then none else some scaled
      else some (f / tenTo exponent.natAbs)
    else if f == 0.0 then some f
    else if exponent ≥ 0 then none
    else scale? steps (f / tenTo 308) (exponent + 308)

def scaled? (negative : Bool) (significand : Nat) (exponent : Int) : Option UInt64 :=
  (scale? 8 (UInt64.ofNat significand).toFloat exponent).map fun f => (if negative then -f else f).toBits

/-- Leading digits as long as they fit in 64 bits: their value, how many were read, and the
digits behind them. -/
def takeSignificand (value count : Nat) : List Char → Nat × Nat × List Char
  | [] => (value, count, [])
  | c :: cs =>
    match Text.digit? c with
    | some d =>
      if value * 10 + d ≤ Text.uint64Max then takeSignificand (value * 10 + d) (count + 1) cs
      else (value, count, c :: cs)
    | none => (value, count, c :: cs)

/-- The double that digits before and after the point and an exponent write by the scaled rule, as
bits. -/
def readScaled? (negative : Bool) (whole fraction : List Char) (exponent : Int) : Option UInt64 :=
  let (value, _, beyond) := takeSignificand 0 0 whole
  let (value, used, _) := takeSignificand value 0 fraction
  scaled? negative value (exponent + beyond.length - used)

end StreamPolicy.Decimal
