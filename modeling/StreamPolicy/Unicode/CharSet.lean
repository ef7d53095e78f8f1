import StreamPolicy.Text.Integer

/-!
# Sets of code points

A set is a sorted list of ranges with a gap between each two. Tables write such a list as gaps and
lengths: for each range its distance from the end of the range before, and how many code points it
holds past its first.
-/

namespace StreamPolicy.Unicode

structure CharSet where
  /-- The first and last code point of each range, in ascending order. -/
  ranges : List (Nat × Nat)
  deriving Repr, DecidableEq

namespace CharSet

def empty : CharSet := ⟨[]⟩

def last : Nat := 0x10FFFF

/-- A code point lies in one of some ascending ranges. -/
def memRanges (n : Nat) : List (Nat × Nat) → Bool
  | [] => false
  | (lo, hi) :: rest => if n < lo then false else n ≤ hi || memRanges n rest

def hasCode (s : CharSet) (n : Nat) : Bool :=
  memRanges n s.ranges

def contains (s : CharSet) (c : Char) : Bool :=
  s.hasCode c.toNat

def isEmpty (s : CharSet) : Bool :=
  s.ranges.isEmpty

/-- Joins the range from `lo` to `hi` with the ranges after it that overlap or touch it, and so on
through the list; the ranges must ascend by their first code points. -/
def mergeFrom (lo hi : Nat) : List (Nat × Nat) → List (Nat × Nat)
  | [] => [(lo, hi)]
  | (lo', hi') :: rest =>
    if lo' ≤ hi + 1 then mergeFrom lo (max hi hi') rest else (lo, hi) :: mergeFrom lo' hi' rest

/-- Joins ascending ranges that overlap or touch. -/
def mergeSorted : List (Nat × Nat) → List (Nat × Nat)
  | [] => []
  | (lo, hi) :: rest => mergeFrom lo hi rest

/-- The set of some ranges in any order; a range whose end lies before its start is empty. -/
def ofRanges (rs : List (Nat × Nat)) : CharSet :=
  ⟨mergeSorted ((rs.filter fun (lo, hi) => lo ≤ hi).mergeSort fun a b => a.1 ≤ b.1)⟩

def ofChars (cs : List Char) : CharSet :=
  ofRanges (cs.map fun c => (c.toNat, c.toNat))

def union (a b : CharSet) : CharSet :=
  ofRanges (a.ranges ++ b.ranges)

/-- The ranges from `start` on that some ascending ranges leave out. -/
def gapsFrom (start : Nat) : List (Nat × Nat) → List (Nat × Nat)
  | [] => if start ≤ last then [(start, last)] else []
  | (lo, hi) :: rest => if start < lo then (start, lo - 1) :: gapsFrom (hi + 1) rest else gapsFrom (hi + 1) rest

/-- Every character that is not in the set; surrogates are no characters. -/
def complement (s : CharSet) : CharSet :=
  ⟨gapsFrom 0 (ofRanges ((0xD800, 0xDFFF) :: s.ranges)).ranges⟩

def inter (a b : CharSet) : CharSet :=
  (a.complement.union b.complement).complement

def diff (a b : CharSet) : CharSet :=
  a.inter b.complement

def symmDiff (a b : CharSet) : CharSet :=
  (a.union b).diff (a.inter b)

def all : CharSet :=
  empty.complement

def size (s : CharSet) : Nat :=
  s.ranges.foldl (fun n (lo, hi) => n + (hi + 1 - lo)) 0

/-- The numbers that a text writes in hexadecimal between blanks; anything else counts as zero. -/
def hexNumbers (s : String) : List Nat :=
  let step := fun (done, now) c =>
    if c = ' ' then (now :: done, 0) else (done, now * 16 + (Text.digitIn? 16 c).getD 0)
  let (done, now) := s.toList.foldl step ([], 0)
  (now :: done).reverse

/-- The ranges that gaps and lengths describe, when the range before ends just below `start`. -/
def rangesOfGaps (start : Nat) : List Nat → List (Nat × Nat)
  | gap :: length :: rest =>
    (start + gap, start + gap + length) :: rangesOfGaps (start + gap + length + 1) rest
  | _ => []

def ofGaps (s : String) : CharSet :=
  ⟨rangesOfGaps 0 (hexNumbers s)⟩

end CharSet

end StreamPolicy.Unicode
