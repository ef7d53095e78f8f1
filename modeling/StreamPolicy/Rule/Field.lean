import StreamPolicy.Json.Printer
import StreamPolicy.Text.Quoted
import StreamPolicy.Text.Search

/-!
# Rule fields

A rule is written as a list of fields. A field is an integer of 64 bits, a text or a list of fields;
anything else is kept as it was written, so that one bad rule does not spoil the others. Reading a
field and writing it gives the same value back.
-/

namespace StreamPolicy

open StreamPolicy.Json

/-- One field of a rule as it stands in the policy. -/
inductive Field where
  | int (n : Int)
  | str (s : String)
  | list (items : List Field)
  /-- Anything else; no rule holds one. -/
  | other (v : Value)
  deriving Repr, Inhabited

namespace Field

mutual

def ofJson : Value → Field
  | .num (.int n) =>
    if Text.int64Min ≤ n ∧ n ≤ Text.int64Max then .int n else .other (.num (.int n))
  | .str s => .str s
  | .arr items => .list (ofJsonItems items)
  | v => .other v

def ofJsonItems : List Value → List Field
  | [] => []
  | v :: rest => ofJson v :: ofJsonItems rest

end

mutual

def toJson : Field → Value
  | .int n => .num (.int n)
  | .str s => .str s
  | .list items => .arr (toJsonItems items)
  | .other v => v

def toJsonItems : List Field → List Value
  | [] => []
  | f :: rest => toJson f :: toJsonItems rest

end

mutual

/-- A field as messages show it: a text is quoted, a list stands in brackets. -/
def display : Field → String
  | .int n => Text.ofInt n
  | .str s => Text.quote s
  | .list items => "[" ++ Text.join ", " (displayItems items) ++ "]"
  | .other v => v.compact

def displayItems : List Field → List String
  | [] => []
  | f :: rest => display f :: displayItems rest

end

def str? : Field → Option String
  | .str s => some s
  | _ => none

def int? : Field → Option Int
  | .int n => some n
  | _ => none

/-- An integer, or a text that writes one between blanks. -/
def number? : Field → Option Int
  | .int n => some n
  | .str s => Text.int64? (Text.trim s)
  | _ => none

end Field

end StreamPolicy
