import StreamPolicy.Rule.Field
import StreamPolicy.Text.Search

/-!
# Path mappings

A mapping turns the path of a media file into the path that the storage backend knows. Mappings are
applied in order, each to what the one before has made.
-/

namespace StreamPolicy

inductive MappingMode where
  | replace
  /-- The search text is put in front. -/
  | prepend
  /-- The search text is put behind. -/
  | append
  | replaceAll
  deriving DecidableEq, Repr

def MappingMode.ofCode? (code : Int) : Option MappingMode :=
  if code = 0 then some .replace
  else if code = 1 then some .prepend
  else if code = 2 then some .append
  else if code = 3 then some .replaceAll
  else none

structure Mapping where
  mode : MappingMode
  /-- What is looked for, or added. -/
  search : String
  replacement : String
  deriving DecidableEq, Repr

namespace Mapping

/-- The mapping that some fields write: a mode, a search text and a replacement, which may be left
out. -/
def ofFields? : List Field → Option Mapping
  | mode :: search :: rest =>
    match mode.number?.bind MappingMode.ofCode?, search.str? with
    | some mode, some search =>
      match rest with
      | [] => some ⟨mode, search, ""⟩
      | replacement :: _ => replacement.str?.map fun r => ⟨mode, search, r⟩
    | _, _ => none
  | _ => none

def ofField? : Field → Option Mapping
  | .list fields => ofFields? fields
  | _ => none

/-- The mappings of a list in order; items that write none are passed over. -/
def readAll (raw : List Field) : List Mapping :=
  raw.filterMap ofField?

def apply (m : Mapping) (path : String) : String :=
  match m.mode with
  | .replace =>
    String.ofList (Text.replaceFirst m.search.toList m.replacement.toList path.toList)
  | .prepend => m.search ++ path
  | .append => path ++ m.search
  | .replaceAll =>
    String.ofList (Text.replaceAll m.search.toList m.replacement.toList path.toList)

def applyAll (ms : List Mapping) (path : String) : String :=
  ms.foldl (fun path m => m.apply path) path

end Mapping

end StreamPolicy
