import StreamPolicy.Audit.Writer

/-!
# The audit sink

Handles send entries to one task, which writes them in the order in which they are sent. When nothing
has been sent for a second the task flushes; when the last handle is gone it flushes and ends.
-/

namespace StreamPolicy.Audit

structure Task where
  writer : Writer
  /-- Something was written after the last flush. -/
  dirty : Bool

namespace Task

/-- An entry is written. One that cannot be written is passed over. -/
def receive (t : Task) (e : Entry) : Task :=
  match t.writer.write e with
  | (w, .ok ()) => ⟨w, true⟩
  | (w, .error _) => ⟨w, t.dirty⟩

/-- Nothing has come for a while: what was written is flushed. -/
def idle (t : Task) : Task :=
  if t.dirty then
    match t.writer.flush with
    | (w, .ok ()) => ⟨w, false⟩
    | (w, .error _) => ⟨w, true⟩
  else t

/-- Nothing will come any more: what was written is flushed, and the writer is left. -/
def close (t : Task) : Writer :=
  if t.dirty then t.writer.flush.1 else t.writer

end Task

/-- How many seconds the task waits for an entry before it flushes. -/
def flushInterval : Nat := 1

/-- The handles and the task that they send to. -/
structure Sink where
  handles : Nat
  task : Option Task

namespace Sink

def ofWriter (w : Writer) : Sink :=
  ⟨1, some ⟨w, false⟩⟩

/-- One more handle; there must be one to copy. -/
def clone (s : Sink) : Sink :=
  if s.handles = 0 then s else { s with handles := s.handles + 1 }

def drop (s : Sink) : Sink :=
  { s with handles := s.handles - 1 }

/-- An entry sent; without a handle or a task it goes nowhere. -/
def send (s : Sink) (e : Entry) : Sink :=
  if s.handles = 0 then s else { s with task := s.task.map (·.receive e) }

def wait (s : Sink) (seconds : Nat) : Sink :=
  if seconds < flushInterval then s else { s with task := s.task.map Task.idle }

/-- The task is stopped where it stands. -/
def stop (s : Sink) : Sink :=
  { s with task := none }

def join (s : Sink) : Sink × Option Writer :=
  (⟨0, none⟩, s.task.map Task.close)

end Sink

end StreamPolicy.Audit
