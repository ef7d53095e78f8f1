import StreamPolicy.Audit.Entry
import StreamPolicy.File.Store

/-!
# Writing the audit log

A writer appends one line per entry to a file. Lines gather in a buffer and reach the file when the
buffer is flushed, or when it is full.
-/

namespace StreamPolicy.Audit

open StreamPolicy.File (Store Appender)

inductive WriteError where
  | directories (path : String) (cause : File.Error)
  | opening (path : String) (cause : File.Error)
  | writing (cause : File.Error)
  | flushing (cause : File.Error)
  deriving DecidableEq, Repr

def WriteError.message : WriteError → String
  | .directories path cause =>
    "failed to create parent directories for " ++ path ++ ": " ++ cause.message
  | .opening path cause => "failed to open audit log " ++ path ++ ": " ++ cause.message
  | .writing cause => "failed to write to audit log: " ++ cause.message
  | .flushing cause => "failed to flush audit log: " ++ cause.message

structure Writer where
  path : String
  log : Appender
  /-- What has not reached the log. -/
  buffer : List UInt8
  written : Nat

namespace Writer

def capacity : Nat := 8192

def makeParents (s : Store) (path : String) : Store × Except WriteError Unit :=
  match (File.parent? path).filter (· ≠ "") with
  | some up =>
    match Store.makeDirectories up.length s up with
    | (s, .ok ()) => (s, .ok ())
    | (s, .error e) => (s, .error (.directories up e))
  | none => (s, .ok ())

def create (s : Store) (path : String) : Store × Except WriteError Writer :=
  match makeParents s path with
  | (s, .error e) => (s, .error e)
  | (s, .ok ()) =>
    match s.openToAppend path with
    | .error e => (s, .error (.opening path e))
    | .ok (s, place, node) => (s, .ok ⟨path, ⟨place, node, false⟩, [], 0⟩)

/-- The buffer handed to the log. When the log tells of a loss the buffer stays. -/
def drain (w : Writer) : Writer × Except File.Error Unit :=
  if w.buffer.isEmpty then (w, .ok ())
  else
    match w.log.append w.buffer with
    | (log, .ok ()) => ({ w with log := log, buffer := [] }, .ok ())
    | (log, .error e) => ({ w with log := log }, .error e)

/-- The buffer handed to the log if some more bytes do not fit into it. -/
def makeRoom (w : Writer) (more : Nat) : Writer × Except File.Error Unit :=
  if w.buffer.length + more > capacity then w.drain else (w, .ok ())

/-- A line put into the buffer, or handed to the log when no buffer can take it. -/
def take (w : Writer) (line : List UInt8) : Writer × Except File.Error Unit :=
  if line.length ≥ capacity then
    match w.log.append line with
    | (log, result) => ({ w with log := log }, result)
  else ({ w with buffer := w.buffer ++ line }, .ok ())

def write (w : Writer) (e : Entry) : Writer × Except WriteError Unit :=
  match w.makeRoom e.line.length with
  | (w, .error cause) => (w, .error (.writing cause))
  | (w, .ok ()) =>
    match w.take e.line with
    | (w, .error cause) => (w, .error (.writing cause))
    | (w, .ok ()) => ({ w with written := w.written + 1 }, .ok ())

/-- Everything that was written is in the log, or its loss is told. -/
def flush (w : Writer) : Writer × Except WriteError Unit :=
  match w.drain with
  | (w, .error cause) => (w, .error (.flushing cause))
  | (w, .ok ()) =>
    match w.log.sync with
    | (log, .error cause) => ({ w with log := log }, .error (.flushing cause))
    | (log, .ok ()) => ({ w with log := log }, .ok ())

def save (w : Writer) (s : Store) : Store :=
  s.put w.log.place w.log.node

end Writer

end StreamPolicy.Audit
