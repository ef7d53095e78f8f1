import StreamPolicy.Text.Encoding
import StreamPolicy.Text.Search

/-!
# Links

What can be read off a link without fetching it: its resource path, the path of the file behind a
storage link, and whether a path is absolute or names a stream file. A link is a plain text that
need not be well formed.
-/

namespace StreamPolicy.Link

open StreamPolicy.Text

def afterScheme? (s : List Char) : Option (List Char) :=
  match after? "https://".toList s with
  | some r => some r
  | none => after? "http://".toList s

/-- The resource path of a link that starts at the front of a text: from the first slash behind a
host that is not empty, up to the query or the fragment. -/
def resourceHere? (s : List Char) : Option (List Char) :=
  match afterScheme? s with
  | none => none
  | some r =>
    if (r.takeWhile (· ≠ '/')).isEmpty then none
    else
      match r.dropWhile (· ≠ '/') with
      | [] => none
      | path => some (path.takeWhile fun c => c ≠ '?' && c ≠ '#')

def resource? : List Char → Option (List Char)
  | [] => none
  | c :: cs =>
    match resourceHere? (c :: cs) with
    | some path => some path
    | none => resource? cs

def urlPath? (url : String) : Option String :=
  (resource? url.toList).map String.ofList

/-- What follows one of the two markers that stand before a file path, when the text begins with
one. -/
def afterMarker? (s : List Char) : Option (List Char) :=
  match after? "/False/".toList s with
  | some r => some r
  | none => after? "/d/".toList s

/-- The file path behind the first marker in a text, up to the end of its line. -/
def filePart? : List Char → Option (List Char)
  | [] => none
  | c :: cs =>
    match afterMarker? (c :: cs) with
    | some r => some (r.takeWhile (· ≠ '\n'))
    | none => filePart? cs

def filePathPart? (url : String) : Option String :=
  (filePart? url.toList).map String.ofList

/-- The mark before one more argument: an ampersand when a query has begun. -/
def separator (url : String) : String :=
  if contains url "?" then "&" else "?"

/-- The link with one more argument; a link that holds the key anywhere stays as it is. -/
def appendArg (url key value : String) : String :=
  if contains url key then url else url ++ separator url ++ key ++ "=" ++ value

private def lower (c : Char) : Char :=
  c.toLower

def isStream (path : String) : Bool :=
  ".strm".toList.isSuffixOf (path.toList.map lower)

/-- The path starts at a root: with a slash of either kind. -/
def isAbsolute (path : String) : Bool :=
  startsWith path "/" || startsWith path "\\"

/-- The path as part of a link: what a link cannot hold is escaped. -/
def encodeUri (path : String) : String :=
  String.ofList (Percent.encode path.toList)

end StreamPolicy.Link
