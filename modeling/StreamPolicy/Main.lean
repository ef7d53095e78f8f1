import Std.Time.DateTime.Timestamp
import StreamPolicy.Command.Run
import StreamPolicy.Time.Timestamp

/-!
# The program

The files that a run may look at are read from disk, the run is made on them, and the audit log is
brought to disk.
-/

namespace StreamPolicy.Program

open StreamPolicy.Command

def observe (path : String) : IO (Option File.Node) := do
  match ← (IO.FS.readBinFile path).toBaseIO with
  | .ok bytes => return some (.file bytes.toList)
  | .error (.inappropriateType ..) => return some .directory
  | .error _ => return none

/-- The ways to a path: its beginnings that end with a name, shortest first. -/
def waysTo (path : String) : List String :=
  let start := if File.isAbsolute path then "/" else ""
  let names := File.names path
  (List.range names.length).map fun i => start ++ Text.join "/" (names.take (i + 1))

/-- The files with what stands on disk at a path and on the way to it. -/
def withPath (files : File.Store) (path : String) : IO File.Store :=
  (waysTo path).foldlM (fun files way => do
    match files.place way, ← observe way with
    | .ok place, some node => return files.put place node
    | _, _ => return files) files

def pathsOf (line : Line) (settings : Settings) : List String :=
  let body :=
    match line.task with
    | .hideItems (some path) _ _ _ => [path]
    | _ => []
  [settings.policyFile, settings.auditPath] ++ body

/-- The files that a command line looks at, and the paths among them that it may change. -/
def gather (words : List String) : IO (File.Store × List String) := do
  let empty : File.Store := ⟨[], []⟩
  match Line.parse words with
  | .error _ => return (empty, [])
  | .ok line =>
    let files ← withPath empty line.settings
    match Settings.load files line.settings with
    | .error _ => return (files, [])
    | .ok settings =>
      let settings := settings.withLine line
      let files ← (pathsOf line settings).foldlM withPath files
      return (files, if settings.auditEnabled then [settings.auditPath] else [])

def readsInput (words : List String) : Bool :=
  match Line.parse words with
  | .ok line =>
    match line.task with
    | .hideItems none _ _ _ => true
    | _ => false
  | .error _ => false

def input (words : List String) : IO (List UInt8) := do
  if readsInput words then return (← (← IO.getStdin).readToEnd).toUTF8.toList else return []

/-- What is new in a file is appended to it on disk; the directories on the way are made. -/
def save (before after : File.Store) (path : String) : IO Unit := do
  match after.read path with
  | .error _ => return
  | .ok bytes =>
    let known := ((before.read path).toOption.getD []).length
    if let some up := (File.parent? path).filter (· ≠ "") then IO.FS.createDirAll up
    let handle ← IO.FS.Handle.mk path .append
    handle.write (ByteArray.mk (bytes.drop known).toArray)
    handle.flush

def clock : IO Int := do
  return (← Std.Time.Timestamp.now).toNanosecondsSinceUnixEpoch.val

/-- Identifiers and times for the entries of a run, all with the same time. -/
def stamps (nanoseconds : Int) (random : List UInt8) (i : Nat) : Audit.EntryId × Time.Timestamp :=
  let digits := Audit.EntryId.digitsOfBytes ((random.drop (16 * i)).take 16)
  ((Audit.EntryId.ofRandom? digits).getD .zero, (Time.Timestamp.ofNanoseconds? nanoseconds).getD .epoch)

end StreamPolicy.Program

open StreamPolicy.Program StreamPolicy.Command in
def main (words : List String) : IO UInt32 := do
  let (files, changing) ← gather words
  let now ← clock
  let random ← IO.getRandomBytes 1024
  let start : Start := ⟨words, files, ← input words, now / 1000000, stamps now random.toList⟩
  let (after, ending) := run start
  changing.forM (save files after)
  IO.print ending.printed
  if let some message := ending.error? then IO.eprintln ("Error: " ++ message)
  if let .usage cause := ending then
    if cause.exitCode ≠ 0 then IO.eprintln ("error: " ++ cause.name)
  return ending.exitCode.toUInt32
