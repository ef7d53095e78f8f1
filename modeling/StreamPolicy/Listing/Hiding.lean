import StreamPolicy.Listing.Applicable

/-!
# Hiding items

A listing is an object with an array of items and a count of all records. Items whose path matches a
hide rule are taken out, and the count goes down with them. Everything else stays as it is. The count is
an integer of 64 bits with sign; when it would leave that range the run is aborted, with the items taken
out already.
-/

namespace StreamPolicy

open StreamPolicy.Json

/-- How many items were taken out of a listing, and how many are left. -/
structure HideOutcome where
  hidden : Nat
  remaining : Nat
  deriving DecidableEq, Repr

/-- A count of all records cannot go down by the number of hidden items. -/
structure CountOverflow where
  total : Int
  hidden : Nat
  deriving DecidableEq, Repr

namespace Listing

def itemsKey : String := "Items"

def totalKey : String := "TotalRecordCount"

def pathKey : String := "Path"

def itemPath? (item : Value) : Option String :=
  ((item.get? pathKey).bind Value.str?).filter (· ≠ "")

def items? (body : Value) : Option (List Value) :=
  (body.get? itemsKey).bind Value.arr?

/-- An item stays: it has no path, or no entry matches its path. -/
def staysVisible (ctx : Context) (entries : List Entry) (item : Value) : Bool :=
  match itemPath? item with
  | none => true
  | some path => (firstMatch? ctx entries path .filePath).isNone

def reduce (total : Int) (hidden : Nat) : Except CountOverflow Int :=
  let rest := total - hidden
  if Text.int64Min ≤ rest ∧ rest ≤ Text.int64Max then .ok rest else .error ⟨total, hidden⟩

/-- The members of a listing with its count reduced. A count of zero stays, and so does anything
that is no count. -/
def reduceTotal (hidden : Nat) (ms : Members) : Except CountOverflow Members :=
  match (Members.get? totalKey ms).bind Value.int64? with
  | some total =>
    if total = 0 then .ok ms
    else (reduce total hidden).map fun rest => Members.insert totalKey (.int rest) ms
  | none => .ok ms

/-- The listing without the items that a hide list hides, and what came of it. -/
def hide (ctx : Context) (entries : List Entry) (view : Option View) (mainItem : Option String)
    (body : Value) : Value × Except CountOverflow HideOutcome :=
  match body with
  | .obj ms =>
    match (Members.get? itemsKey ms).bind Value.arr? with
    | none => (body, .ok ⟨0, 0⟩)
    | some items =>
      let kept := items.filter (staysVisible ctx (applicableEntries ctx entries view mainItem))
      let hidden := items.length - kept.length
      let ms := Members.insert itemsKey (.arr kept) ms
      match reduceTotal hidden ms with
      | .ok ms => (.obj ms, .ok ⟨hidden, kept.length⟩)
      | .error overflow => (.obj ms, .error overflow)
  | _ => (body, .ok ⟨0, 0⟩)

end Listing

end StreamPolicy
