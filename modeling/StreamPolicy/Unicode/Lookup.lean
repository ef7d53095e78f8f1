import StreamPolicy.Text.Search
import StreamPolicy.Unicode.Age
import StreamPolicy.Unicode.CaseFolding
import StreamPolicy.Unicode.CharSet
import StreamPolicy.Unicode.GeneralCategory
import StreamPolicy.Unicode.GraphemeBreak
import StreamPolicy.Unicode.Property
import StreamPolicy.Unicode.Script
import StreamPolicy.Unicode.ScriptExtensions
import StreamPolicy.Unicode.SentenceBreak
import StreamPolicy.Unicode.WordBreak

/-!
# Character properties by name

Names are compared in loose form: case, blanks, hyphens, underscores and a leading `is` do not
count. A name alone is looked up among the binary properties, the general categories and the
scripts; a name with a value names the property that the value belongs to. The tables hold version 16
of the standard. Names and quoted texts go by version 17, so its letters and numbers are added here.
-/

namespace StreamPolicy.Unicode

/-- The letters and digits that count in a name. -/
def looseChars (cs : List Char) : List Char :=
  (cs.filter fun c => c ≠ ' ' && c ≠ '_' && c ≠ '-' && c.toNat < 0x80).map Char.toLower

/-- The loose form of a name. A leading `is` does not count, except in `isc`. -/
def looseName (s : List Char) : String :=
  match s with
  | a :: b :: rest =>
    if a.toLower = 'i' && b.toLower = 's' then
      let cs := looseChars rest
      if cs = ['c'] then "isc" else String.ofList cs
    else String.ofList (looseChars s)
  | _ => String.ofList (looseChars s)

/-- The set that a table gives under a name in loose form. -/
def find? (table : List (List String × String)) (name : String) : Option CharSet :=
  (table.find? fun (names, _) => names.contains name).map fun (_, gaps) => .ofGaps gaps

def category (name : String) : CharSet :=
  (find? generalCategories name).getD .empty

def categoryUnion (names : List String) : CharSet :=
  .ofRanges (names.flatMap fun n => (category n).ranges)

/-- The general categories that unite others: their names in loose form, and what they unite. -/
def categoryGroups : List (List String × List String) :=
  [(["l", "letter"], ["lu", "ll", "lt", "lm", "lo"]),
   (["lc", "casedletter"], ["lu", "ll", "lt"]),
   (["m", "mark", "combiningmark"], ["mn", "mc", "me"]),
   (["n", "number"], ["nd", "nl", "no"]),
   (["p", "punctuation", "punct"], ["pc", "pd", "ps", "pe", "pi", "pf", "po"]),
   (["s", "symbol"], ["sm", "sc", "sk", "so"]),
   (["z", "separator"], ["zs", "zl", "zp"]),
   (["c", "other"], ["cc", "cf", "co", "cn"])]

def generalCategory? (name : String) : Option CharSet :=
  if name = "any" then some .all
  else if name = "assigned" then some (category "cn").complement
  else if name = "ascii" then some (.ofRanges [(0, 0x7F)])
  else
    match categoryGroups.find? fun (names, _) => names.contains name with
    | some (_, parts) => some (categoryUnion parts)
    | none => find? generalCategories name

def script? (name : String) : Option CharSet :=
  find? scripts name

def scriptExtension? (name : String) : Option CharSet :=
  match find? scriptExtensions name with
  | some s => some s
  | none => find? scripts name

/-- Everything that was assigned in the version under a name in loose form, or before. -/
def age? (name : String) : Option CharSet :=
  let before := ages.takeWhile fun (names, _) => !names.contains name
  match ages.drop before.length with
  | [] => none
  | (_, gaps) :: _ =>
    some (.ofRanges ((gaps :: before.map Prod.snd).flatMap fun g => (CharSet.ofGaps g).ranges))

/-- A property named alone: binary properties go before general categories and these before
scripts; three short names are always general categories. -/
def named? (name : List Char) : Option CharSet :=
  let name := looseName name
  let property? := if ["cf", "sc", "lc"].contains name then none else find? properties name
  match property? with
  | some s => some s
  | none =>
    match generalCategory? name with
    | some s => some s
    | none => script? name

def valued? (property value : List Char) : Option CharSet :=
  let value := looseName value
  match looseName property with
  | "gc" | "generalcategory" => generalCategory? value
  | "sc" | "script" => script? value
  | "scx" | "scriptextensions" => scriptExtension? value
  | "age" => age? value
  | "gcb" | "graphemeclusterbreak" => find? graphemeBreaks value
  | "wb" | "wordbreak" => find? wordBreaks value
  | "sb" | "sentencebreak" => find? sentenceBreaks value
  | _ => none

def digits : CharSet :=
  category "nd"

def blanks : CharSet :=
  (find? properties "whitespace").getD .empty

/-- The characters of words: letters, marks, decimal digits, connectors and joiners. -/
def wordChars : CharSet :=
  let part (name : String) := ((find? properties name).getD .empty).ranges
  .ofRanges (part "alphabetic" ++ part "joincontrol" ++
    (categoryUnion ["mn", "mc", "me", "nd", "pc"]).ranges)

def newLetters : CharSet :=
  .ofGaps ("88f 0 3cc 0 7f 0 9af1 1 2 0 1 0 1c 0 614e 19 56b 2 32 1 c64 7 248 2b 50c4 18 2 18 11e 4 " ++
    "1801 7 509 15 61 72 58cd 1e 1 15 8 1 d03a 5 1762 b 5502 10c9")

def newNumbers : CharSet :=
  .ofGaps "11de0 9 520a 2"

def letters : CharSet :=
  ((find? properties "alphabetic").getD .empty).union newLetters

def alphanumerics : CharSet :=
  letters.union ((categoryUnion ["nd", "nl", "no"]).union newNumbers)

/-- The orbits that a text of gaps describes, when the orbit before starts at `start`. -/
def orbitsFrom (start : Nat) : List String → List (List Nat)
  | [] => []
  | text :: rest =>
    match CharSet.hexNumbers text with
    | gap :: others => ((start + gap) :: others.map (start + gap + ·)) :: orbitsFrom (start + gap) rest
    | [] => orbitsFrom start rest

def caseOrbits : List (List Nat) :=
  orbitsFrom 0 (Text.split caseOrbitGaps " ; ")

/-- The set with every character that differs from one of its own in case alone. -/
def CharSet.foldCase (s : CharSet) : CharSet :=
  let added := caseOrbits.filter fun orbit => orbit.any s.hasCode
  .ofRanges (s.ranges ++ added.flatMap fun orbit => orbit.map fun n => (n, n))

/-- The set with both cases of every letter of ASCII that it holds. -/
def CharSet.foldAsciiCase (s : CharSet) : CharSet :=
  let lower := (s.inter (.ofRanges [(65, 90)])).ranges.map fun (a, b) => (a + 32, b + 32)
  let upper := (s.inter (.ofRanges [(97, 122)])).ranges.map fun (a, b) => (a - 32, b - 32)
  .ofRanges (s.ranges ++ lower ++ upper)

end StreamPolicy.Unicode
