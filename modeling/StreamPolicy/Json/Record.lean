import StreamPolicy.Json.Value

/-!
# Records in JSON

A record is written as an object, which names its fields, or as an array, which gives them in order.
An object may hold other members too. A field that an object leaves out has its usual value; an array
may leave out fields at its end that have one.

A choice between names is written as a text, or as an object with the name as its only key.
-/

namespace StreamPolicy.Json

/-- A record as it was written. -/
structure Record where
  fields : List (String × Value)
  /-- The fields were named. -/
  named : Bool

namespace Record

/-- No name stands twice among some keys. -/
def eachOnce (names : List String) (ms : List (String × Value)) : Bool :=
  names.all fun name => (ms.filter fun m => m.1 = name).length ≤ 1

/-- The record that a value writes; `names` are its fields in order. -/
def ofValue? (names : List String) : Value → Option Record
  | .obj ms => if eachOnce names ms then some ⟨ms, true⟩ else none
  | .arr items => if items.length ≤ names.length then some ⟨names.zip items, false⟩ else none
  | _ => none

def get? (r : Record) (name : String) : Option Value :=
  Members.get? name r.fields

def required? (r : Record) (name : String) (read : Value → Option α) : Option α :=
  (r.get? name).bind read

def usual? (r : Record) (name : String) (read : Value → Option α) (default : α) : Option α :=
  match r.get? name with
  | some v => read v
  | none => some default

/-- A field that an object may leave out. -/
def optional? (r : Record) (name : String) (read : Value → Option (Option α)) : Option (Option α) :=
  match r.get? name with
  | some v => read v
  | none => if r.named then some none else none

end Record

namespace Value

/-- What `read` makes of a value, or nothing for `null`. -/
def orNull? (read : Value → Option α) : Value → Option (Option α)
  | .null => some none
  | v => (read v).map some

def list? (read : Value → Option α) : Value → Option (List α)
  | .arr items => items.mapM read
  | _ => none

/-- The name that a value chooses, and what stands behind it. -/
def choice? : Value → Option (String × Option Value)
  | .str name => some (name, none)
  | .obj [(name, v)] => some (name, some v)
  | _ => none

/-- The name that a value chooses when nothing stands behind it. -/
def name? (v : Value) : Option String :=
  match v.choice? with
  | some (name, none) => some name
  | some (name, some .null) => some name
  | _ => none

end Value

end StreamPolicy.Json
