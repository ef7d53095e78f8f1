import StreamPolicy.Decimal.Shortest
import StreamPolicy.Text.Integer

/-!
# JSON values

A number is an integer or a double; a double is held by its bits, so that equality of values is
plain equality. The members of an object that is worked with stand in ascending order of their keys,
each key once: `Members.insert` keeps that order, and `Value.sorted` brings a value as it was written
into it.
-/

namespace StreamPolicy.Json

/-- A number as it was written: without a point and an exponent, or with one. -/
inductive Number where
  | int (n : Int)
  /-- A double, by its bits. -/
  | float (bits : UInt64)
  deriving DecidableEq, Repr

inductive Value where
  | null
  | bool (b : Bool)
  | num (n : Number)
  | str (s : String)
  | arr (items : List Value)
  | obj (members : List (String × Value))
  deriving Repr, Inhabited

abbrev Members := List (String × Value)

namespace Members

def get? (key : String) : Members → Option Value
  | [] => none
  | (k, v) :: rest => if k = key then some v else get? key rest

/-- The members with a value put at a key, in the place that the key's order gives it. -/
def insert (key : String) (value : Value) : Members → Members
  | [] => [(key, value)]
  | (k, v) :: rest =>
    if k = key then (key, value) :: rest
    else if key < k then (key, value) :: (k, v) :: rest
    else (k, v) :: insert key value rest

/-- Members in any order put in order; of two values at one key the later stays. -/
def ofList (ms : List (String × Value)) : Members :=
  ms.foldl (fun acc (k, v) => insert k v acc) []

end Members

namespace Value

mutual

/-- The value with the members of all its objects in order. -/
def sorted : Value → Value
  | .arr items => .arr (sortedItems items)
  | .obj ms => .obj (Members.ofList (sortedMembers ms))
  | v => v

def sortedItems : List Value → List Value
  | [] => []
  | v :: rest => sorted v :: sortedItems rest

def sortedMembers : List (String × Value) → List (String × Value)
  | [] => []
  | (k, v) :: rest => (k, sorted v) :: sortedMembers rest

end

/-- An object of members in any order. -/
def object (ms : List (String × Value)) : Value :=
  .obj (Members.ofList ms)

def int (n : Int) : Value :=
  .num (.int n)

def nat (n : Nat) : Value :=
  .num (.int n)

def strs (ss : List String) : Value :=
  .arr (ss.map .str)

def ofOption (f : α → Value) : Option α → Value
  | some a => f a
  | none => .null

def get? (key : String) : Value → Option Value
  | .obj ms => Members.get? key ms
  | _ => none

def str? : Value → Option String
  | .str s => some s
  | _ => none

def arr? : Value → Option (List Value)
  | .arr items => some items
  | _ => none

def obj? : Value → Option Members
  | .obj ms => some ms
  | _ => none

/-- An integer in the range of signed 64-bit integers. -/
def int64? : Value → Option Int
  | .num (.int n) => if Text.int64Min ≤ n ∧ n ≤ Text.int64Max then some n else none
  | _ => none

def uint64? : Value → Option Nat
  | .num (.int n) => if 0 ≤ n ∧ n ≤ Text.uint64Max then some n.toNat else none
  | _ => none

def bool? : Value → Option Bool
  | .bool b => some b
  | _ => none

end Value

/-- The number zero, of either kind and sign. -/
def Number.isZero : Number → Bool
  | .int n => n = 0
  | .float bits => Decimal.isZero bits

end StreamPolicy.Json
