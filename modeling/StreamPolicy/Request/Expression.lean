import StreamPolicy.Json.Printer
import StreamPolicy.Text.Search

/-!
# Expressions

An expression is one or more paths with a group separator between each two. A path is a chain of
property names; its first name stands for the root and does not count. The values that the paths
lead to are joined by the group separator, without those that count as nothing.
-/

namespace StreamPolicy

open StreamPolicy.Json

/-- Why an expression has no value. -/
inductive ResolveError where
  | missingRoot
  | emptySeparator
  deriving DecidableEq, Repr

def ResolveError.message : ResolveError → String
  | .missingRoot => "missing required root object"
  | .emptySeparator => "property and group split must be non-empty strings"

namespace Expression

def propertySeparator : String := "."

def groupSeparator : String := ":"

/-- The value one name further down: a member of an object, or an item of an array by its
position. -/
def child? (v : Value) (name : String) : Option Value :=
  match v with
  | .obj ms => Members.get? name ms
  | .arr items => (Text.uint64? name).bind fun i => items[i]?
  | _ => none

def descend? (v : Value) : List String → Option Value
  | [] => some v
  | name :: rest =>
    match child? v name with
    | some next => descend? next rest
    | none => none

def lookup? (root : Value) (path separator : String) : Option Value :=
  descend? root ((Text.split path separator).drop 1)

/-- The text of a value; nothing for the empty text, `null`, `false` and zero. -/
def truthy? : Value → Option String
  | .null => none
  | .bool false => none
  | .bool true => some "true"
  | .str s => if s = "" then none else some s
  | .num n => if n.isZero then none else some n.text
  | v => some v.compact

/-- The texts that the paths of an expression lead to. -/
def values (root : Value) (expression propertySep groupSep : String) : List String :=
  ((Text.split expression groupSep).filter fun path => !Text.isBlankText path).filterMap fun path =>
    (lookup? root path propertySep).bind truthy?

/-- The value of an expression: nothing for a blank one. -/
def resolve (root : Option Value) (expression propertySep groupSep : String) :
    Except ResolveError (Option String) :=
  match root with
  | none => .error .missingRoot
  | some root =>
    if Text.isBlankText expression then .ok none
    else if propertySep = "" ∨ groupSep = "" then .error .emptySeparator
    else .ok (some (Text.join groupSep (values root expression propertySep groupSep)))

def resolveUsual (root : Option Value) (expression : String) : Except ResolveError (Option String) :=
  resolve root expression propertySeparator groupSeparator

end Expression

end StreamPolicy
