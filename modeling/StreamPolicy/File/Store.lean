import StreamPolicy.Text.Search
import StreamPolicy.Text.Utf8

/-!
# Files

A path is a text of names with slashes between them. A slash at the front makes it absolute; empty
names and single points lead nowhere. A store holds files and directories under one root, by the names
that lead to them. A path is followed name by name from the root or from the working directory, and
every name but the last must be that of a directory.
-/

namespace StreamPolicy.File

/-! ## Paths -/

def isAbsolute (path : String) : Bool :=
  Text.startsWith path "/"

/-- The path ends with a slash, so it can only lead to a directory. -/
def endsWithSlash (path : String) : Bool :=
  Text.endsWith path "/"

def names (path : String) : List String :=
  (Text.split path "/").filter (· ≠ "")

/-- A path below a directory; an absolute path stays as it is. -/
def join (directory path : String) : String :=
  if isAbsolute path then path
  else if directory = "" || endsWithSlash directory then directory ++ path
  else directory ++ "/" ++ path

/-- A path, last character first, without the slashes and single points at its end. -/
def trimEnd : List Char → List Char
  | ['/'] => ['/']
  | '/' :: r => trimEnd r
  | '.' :: '/' :: r => trimEnd ('/' :: r)
  | r => r

/-- The path without its last name. The root and the empty path have no last name. -/
def parent? (path : String) : Option String :=
  match trimEnd path.toList.reverse with
  | [] => none
  | ['/'] => none
  | r => some (String.ofList (trimEnd (r.dropWhile (· ≠ '/'))).reverse)

/-! ## Stores -/

inductive Node where
  | file (bytes : List UInt8)
  | directory
  /-- A device that takes everything and keeps nothing. -/
  | nothing
  /-- A device that takes nothing. -/
  | full
  deriving DecidableEq

inductive Error where
  | missing
  | exists
  | notDirectory
  | isDirectory
  | noSpace
  | nameTooLong
  | badCharacter
  deriving DecidableEq, Repr

def Error.message : Error → String
  | .missing => "No such file or directory (os error 2)"
  | .exists => "File exists (os error 17)"
  | .notDirectory => "Not a directory (os error 20)"
  | .isDirectory => "Is a directory (os error 21)"
  | .noSpace => "No space left on device (os error 28)"
  | .nameTooLong => "File name too long (os error 36)"
  | .badCharacter => "file name contained an unexpected NUL byte"

/-- A place: the names that lead to it from the root. -/
abbrev Place := List String

structure Store where
  /-- What stands at each place; the root is always a directory. -/
  nodes : List (Place × Node)
  current : Place

namespace Store

def node? (s : Store) (p : Place) : Option Node :=
  if p = [] then some .directory else (s.nodes.find? fun n => n.1 = p).map Prod.snd

def put (s : Store) (p : Place) (n : Node) : Store :=
  { s with nodes := (p, n) :: s.nodes.filter fun m => m.1 ≠ p }

def maxName : Nat := 255

/-- The place of a name in a place that must be a directory. -/
def step (s : Store) (p : Place) (name : String) : Except Error Place :=
  match s.node? p with
  | none => .error .missing
  | some .directory =>
    if name = "." then .ok p
    else if name = ".." then .ok p.dropLast
    else if name.utf8ByteSize > maxName then .error .nameTooLong
    else .ok (p ++ [name])
  | some _ => .error .notDirectory

/-- The place to which a path leads. Nothing needs to stand there. -/
def place (s : Store) (path : String) : Except Error Place :=
  if path = "" then .error .missing
  else if path.toList.any fun c => c.toNat = 0 then .error .badCharacter
  else (names path).foldlM s.step (if isAbsolute path then [] else s.current)

def look (s : Store) (path : String) : Except Error (Place × Node) :=
  match s.place path with
  | .error e => .error e
  | .ok p =>
    match s.node? p with
    | none => .error .missing
    | some .directory => .ok (p, .directory)
    | some n => if endsWithSlash path then .error .notDirectory else .ok (p, n)

def has (s : Store) (path : String) : Bool :=
  (s.look path).toOption.isSome

def hasDirectory (s : Store) (path : String) : Bool :=
  match s.look path with
  | .ok (_, .directory) => true
  | _ => false

def read (s : Store) (path : String) : Except Error (List UInt8) :=
  match s.look path with
  | .error e => .error e
  | .ok (_, .file bytes) => .ok bytes
  | .ok (_, .nothing) => .ok []
  | .ok (_, .directory) => .error .isDirectory
  | .ok (_, .full) => .error .noSpace

def readText? (s : Store) (path : String) : Option String :=
  ((s.read path).toOption.bind Text.Utf8.decode?).map String.ofList

def makeDirectory (s : Store) (path : String) : Except Error Store :=
  match s.place path with
  | .error e => .error e
  | .ok p =>
    match s.node? p with
    | none => .ok (s.put p .directory)
    | some _ => .error .exists

/-- The store with a directory and all directories on the way to it. Directories that were made stay,
even when a later one cannot be made. `fuel` bounds the number of names. -/
def makeDirectories : Nat → Store → String → Store × Except Error Unit
  | 0, s, _ => (s, .error .missing)
  | fuel + 1, s, path =>
    let settle (s : Store) (e : Error) : Store × Except Error Unit :=
      (s, if s.hasDirectory path then .ok () else .error e)
    if path = "" then (s, .ok ())
    else
      match s.makeDirectory path with
      | .ok s => (s, .ok ())
      | .error .missing =>
        match parent? path with
        | none => (s, .error .missing)
        | some up =>
          match makeDirectories fuel s up with
          | (s, .error e) => (s, .error e)
          | (s, .ok ()) =>
            match s.makeDirectory path with
            | .ok s => (s, .ok ())
            | .error e => settle s e
      | .error e => settle s e

/-- The store with a file to append to, made if there is none, and its place. -/
def openToAppend (s : Store) (path : String) : Except Error (Store × Place × Node) :=
  match s.place path with
  | .error e => .error e
  | .ok p =>
    if endsWithSlash path then .error .isDirectory
    else
      match s.node? p with
      | none => .ok (s.put p (.file []), p, .file [])
      | some .directory => .error .isDirectory
      | some n => .ok (s, p, n)

end Store

/-- A file that was opened to append to it. -/
structure Appender where
  place : Place
  node : Node
  /-- Something that was to be appended is lost, and nobody has been told. -/
  lost : Bool

namespace Appender

/-- Bytes appended. A loss is told at the next operation. -/
def append (a : Appender) (bytes : List UInt8) : Appender × Except Error Unit :=
  if a.lost then ({ a with lost := false }, .error .noSpace)
  else
    match a.node with
    | .file old => ({ a with node := .file (old ++ bytes) }, .ok ())
    | .full => ({ a with lost := true }, .ok ())
    | _ => (a, .ok ())

/-- Everything that was appended is in the file, or its loss is told. -/
def sync (a : Appender) : Appender × Except Error Unit :=
  if a.lost then ({ a with lost := false }, .error .noSpace) else (a, .ok ())

end Appender

end StreamPolicy.File
