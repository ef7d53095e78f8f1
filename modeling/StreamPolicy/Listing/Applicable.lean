import StreamPolicy.Rule.Evaluation

/-!
# Which hide rules apply to a listing

A hide rule may carry a level. Without one, or at level 0, it hides from every listing, but not from
the similar items of an item that it hides; at level 1 from every listing except similar items; at
level 2 like 0, but search suggestions keep the item; at level 3 from every listing except backdrop
suggestions. The rules of a group count as one, with the level of the first.
-/

namespace StreamPolicy

/-- The kinds of listings that rules treat apart. -/
inductive View where
  | itemSimilar
  | searchSuggest
  | backdropSuggest
  deriving DecidableEq, Repr

inductive ViewError where
  | unknown (name : String)
  deriving DecidableEq, Repr

def ViewError.message : ViewError → String
  | .unknown name =>
    "unknown view flag '" ++ name ++ "'; expected itemSimilar, searchSuggest or backdropSuggest"

namespace View

def name : View → String
  | .itemSimilar => "itemSimilar"
  | .searchSuggest => "searchSuggest"
  | .backdropSuggest => "backdropSuggest"

def all : List View := [.itemSimilar, .searchSuggest, .backdropSuggest]

def ofName (name : String) : Except ViewError View :=
  match all.find? fun v => v.name = name with
  | some v => .ok v
  | none => .error (.unknown name)

/-- Rules of a level do not hide from a kind of listing. -/
def keeps (view : Option View) (level : Option Int) : Bool :=
  match view with
  | some .searchSuggest => level = some 2
  | some .backdropSuggest => level = some 3
  | some .itemSimilar => level = some 1
  | none => false

end View

/-- The level of a hide rule; a text that writes an integer counts too. -/
def Rule.hideLevel? (r : Rule) : Option Int :=
  r.extra.head?.bind Field.number?

/-- A level at which rules spare the similar items of an item that they hide. -/
def sparesMainItem (level : Option Int) : Bool :=
  level = none || level = some 0 || level = some 2

namespace Entry

/-- The rules that an entry stands for: those of its group, or its own. -/
def unit (groups : List (String × List Rule)) (e : Entry) : Option (List Rule) :=
  e.group?.bind fun name => (groups.find? fun g => g.1 = name).map Prod.snd

/-- The level of an entry: that of the first rule of its group, or its own. -/
def hideLevel? (groups : List (String × List Rule)) (e : Entry) : Option Int :=
  match e.unit groups with
  | some members => members.head?.bind Rule.hideLevel?
  | none => e.rule.hideLevel?

/-- The entry hides the item of a path: all rules of its group match, or its own does. -/
def hides (ctx : Context) (groups : List (String × List Rule)) (path : String) (e : Entry) : Bool :=
  match e.unit groups with
  | some members => groupHolds ctx members path
  | none =>
    match e with
    | .bare rule => rule.holdsFor ctx .filePath path
    | e => e.rule.holds ctx path

def appliesTo (ctx : Context) (groups : List (String × List Rule)) (view : Option View)
    (mainItem : Option String) (e : Entry) : Bool :=
  let level := e.hideLevel? groups
  let hidesMain := sparesMainItem level && mainItem.any fun path => e.hides ctx groups path
  !e.isTagged && !hidesMain && !View.keeps view level

end Entry

/-- The entries of a hide list that apply to a listing. `mainItem` is the path of the item whose
similar items are listed; an empty path is none. -/
def applicableEntries (ctx : Context) (entries : List Entry) (view : Option View)
    (mainItem : Option String) : List Entry :=
  let groups := groupsByName (entries.filter Entry.isGrouped)
  entries.filter (Entry.appliesTo ctx groups view (mainItem.filter (· ≠ "")))

end StreamPolicy
