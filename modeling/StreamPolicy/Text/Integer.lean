/-!
# Integers in text

Reading an integer accepts one leading sign, then decimal digits and nothing else, and refuses a
value outside the given range.
-/

namespace StreamPolicy.Text

def digit? (c : Char) : Option Nat :=
  if '0' ≤ c ∧ c ≤ '9' then some (c.toNat - 48) else none

/-- The value of a digit in a base of at most thirty-six; letters of either case count from ten. -/
def digitIn? (base : Nat) (c : Char) : Option Nat :=
  let value? :=
    if '0' ≤ c ∧ c ≤ '9' then some (c.toNat - 48)
    else if 'a' ≤ c ∧ c ≤ 'z' then some (c.toNat - 87)
    else if 'A' ≤ c ∧ c ≤ 'Z' then some (c.toNat - 55)
    else none
  value?.filter (· < base)

/-- The number that a non-empty run of digits writes in a base. -/
def natIn? (base : Nat) (cs : List Char) : Option Nat :=
  if cs.isEmpty then none
  else cs.foldlM (fun n c => (digitIn? base c).map (n * base + ·)) 0

/-- The integer that an optional sign and digits write, when it lies between `lo` and `hi`. -/
def intIn? (base : Nat) (lo hi : Int) (cs : List Char) : Option Int :=
  let value? : Option Int :=
    match cs with
    | '-' :: r => if lo < 0 then (natIn? base r).map fun n => -(n : Int) else none
    | '+' :: r => (natIn? base r).map fun n => (n : Int)
    | r => (natIn? base r).map fun n => (n : Int)
  value?.filter fun n => lo ≤ n && n ≤ hi

def int64Min : Int := -9223372036854775808

def int64Max : Int := 9223372036854775807

def uint64Max : Nat := 18446744073709551615

def int64? (s : String) : Option Int :=
  intIn? 10 int64Min int64Max s.toList

/-- An unsigned 64-bit integer in decimal; a plus sign is allowed, a minus sign is not. -/
def uint64? (s : String) : Option Nat :=
  (intIn? 10 0 uint64Max s.toList).map Int.toNat

def ofInt (n : Int) : String :=
  if n < 0 then "-" ++ Nat.repr n.natAbs else Nat.repr n.natAbs

def ofNat (n : Nat) : String :=
  Nat.repr n

end StreamPolicy.Text
