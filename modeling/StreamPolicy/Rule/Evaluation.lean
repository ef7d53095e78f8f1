import StreamPolicy.Rule.Entry

/-!
# Evaluating rules

A rule is evaluated for a request and a candidate, which is the file path or the storage link that
is being asked about. A rule that cannot be evaluated does not match. A group matches when it has a
rule and all its rules match.

Of a list flat rules and groups are two blocks. The block whose kind stands first in the list is tried
first. Entries tagged with a route do not take part.
-/

namespace StreamPolicy

/-- The text that a source stands for; nothing when there is none. -/
def Source.subject? (ctx : Context) (candidate : String) : Source → Option String
  | .filePath => some candidate
  | .storageLink => some candidate
  | .expression text =>
    match Expression.resolveUsual (some ctx.tree) text with
    | .ok value => value
    | .error _ => none

namespace Rule

/-- The rule matches with another source in place of its own. -/
def holdsFor (r : Rule) (ctx : Context) (source : Source) (candidate : String) : Bool :=
  match source.subject? ctx candidate with
  | none => false
  | some subject =>
    match r.mode.compare subject r.pattern with
    | .ok hit => hit
    | .error _ => false

def holds (r : Rule) (ctx : Context) (candidate : String) : Bool :=
  r.holdsFor ctx r.source candidate

end Rule

/-- The items that share a key, put together: keys and items in the order of first appearance. Items
without a key are left out. -/
def groupBy [DecidableEq κ] (key : α → Option κ) (items : List α) : List (κ × List α) :=
  items.foldl (fun groups item =>
    match key item with
    | none => groups
    | some k =>
      if groups.any (fun g => g.1 = k) then
        groups.map fun g => if g.1 = k then (g.1, g.2 ++ [item]) else g
      else groups ++ [(k, [item])]) []

/-- Every rule of a group that is not empty matches. -/
def groupHolds (ctx : Context) (members : List Rule) (candidate : String) : Bool :=
  !members.isEmpty && members.all fun r => r.holds ctx candidate

def groupsByName (entries : List Entry) : List (String × List Rule) :=
  (groupBy Entry.group? entries).map fun (name, es) => (name, es.map Entry.rule)

/-! ## The first match of a rule list -/

namespace Entry

/-- A flat entry matches; a bare rule looks at what the list is about. -/
def flatHolds (ctx : Context) (candidate : String) (about : Source) : Entry → Bool
  | .bare rule => rule.holdsFor ctx about candidate
  | .single rule => rule.holds ctx candidate
  | _ => false

def isOfGroup (name : String) : Entry → Bool
  | .grouped group _ => group = name
  | _ => false

end Entry

def firstFlat? (ctx : Context) (entries : List Entry) (candidate : String) (about : Source) :
    Option Entry :=
  entries.find? (Entry.flatHolds ctx candidate about)

/-- The first entry of the first group whose rules all match. -/
def firstGroup? (ctx : Context) (entries : List Entry) (candidate : String) : Option Entry :=
  ((groupsByName (entries.filter Entry.isGrouped)).find? fun (_, members) =>
    groupHolds ctx members candidate).bind fun (name, _) => entries.find? (Entry.isOfGroup name)

/-- The first entry without a route is flat. -/
def startsFlat (entries : List Entry) : Bool :=
  match entries.find? fun e => !e.isTagged with
  | some e => !e.isGrouped
  | none => false

/-- The entry of a rule list that decides about a candidate. -/
def firstMatch? (ctx : Context) (entries : List Entry) (candidate : String) (about : Source) :
    Option Entry :=
  if startsFlat entries then
    (firstFlat? ctx entries candidate about).or (firstGroup? ctx entries candidate)
  else (firstGroup? ctx entries candidate).or (firstFlat? ctx entries candidate about)

end StreamPolicy
