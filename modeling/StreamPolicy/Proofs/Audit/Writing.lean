import StreamPolicy.Audit.Sink
import StreamPolicy.Proofs.File.Store
import StreamPolicy.Proofs.Json.Compact
import StreamPolicy.Proofs.Text.Lines
import StreamPolicy.Proofs.Text.Utf8

/-!
# What a writer keeps

The bytes that were handed to a writer of a file stand in the file and in the buffer behind it, in the
order in which they came. The buffer moves to the file when a line does not fit into it, so a line
that is too long for any buffer never overtakes the lines before it; a flush leaves no buffer at all.
Nothing that stands in the file is ever changed.
-/

namespace StreamPolicy.Audit

open StreamPolicy.File (Store Place)
open StreamPolicy.Text

/-- The lines of entries, in order. -/
def lines (entries : List Entry) : List UInt8 :=
  entries.flatMap Entry.line

theorem lines_append (front back : List Entry) : lines (front ++ back) = lines front ++ lines back :=
  List.flatMap_append

theorem lines_concat (entries : List Entry) (e : Entry) : lines (entries ++ [e]) = lines entries ++ e.line := by
  rw [lines_append]
  exact congrArg (lines entries ++ ·) (List.flatMap_singleton ..)

/-! ## The line of an entry -/

/-- The bytes of the line of an entry, without its end. -/
def Entry.body (e : Entry) : List UInt8 :=
  Utf8.encode e.chars

/-- Some bytes are the JSON of an entry, in one line with its end. -/
structure Entry.IsLine (e : Entry) (bytes : List UInt8) : Prop where
  text : bytes = Utf8.encode e.toJson.compactChars ++ [lineEnd]
  single : lineEnd ∉ Utf8.encode e.toJson.compactChars

theorem Entry.line_eq (e : Entry) : e.line = e.body ++ [lineEnd] := by
  rw [line, Utf8.encode_append, body]
  rfl

theorem lines_eq (entries : List Entry) : lines entries = joinLines (entries.map Entry.body) := by
  rw [joinLines, List.flatMap_map, lines]
  exact List.flatMap_congr fun e _ => e.line_eq

/-- An entry takes no more than its line. -/
theorem Entry.lineEnd_not_mem_body (e : Entry) : lineEnd ∉ e.body := fun member =>
  e.toJson.newline_not_mem_compactChars (Utf8.ofNat_mem_of_mem_encode (b := lineEnd) (by decide) member)

theorem Entry.isLine_line (e : Entry) : e.IsLine e.line :=
  ⟨e.line_eq, e.lineEnd_not_mem_body⟩

theorem lineEnd_not_mem_bodies (entries : List Entry) : ∀ body ∈ entries.map Entry.body, lineEnd ∉ body :=
  List.forall_mem_map.mpr fun e _ => e.lineEnd_not_mem_body

/-- Entries are counted by the ends of their lines. -/
theorem count_lineEnd_lines (entries : List Entry) : (lines entries).count lineEnd = entries.length := by
  induction entries with
  | nil => rfl
  | cons e entries ih =>
    rw [lines, List.flatMap_cons, List.count_append, e.line_eq, List.count_append,
      List.count_eq_zero_of_not_mem e.lineEnd_not_mem_body, List.count_singleton_self, List.length_cons]
    rw [lines] at ih
    omega

namespace Writer

/-- A writer of the file at a place has kept some bytes, and counts some entries. -/
structure Keeps (w : Writer) (place : Place) (bytes : List UInt8) (count : Nat) : Prop where
  placed : w.log.place = place
  /-- The log is a file, and nothing that was appended to it is lost. -/
  sound : w.log.lost = false
  kept : ∃ file, w.log.node = .file file ∧ file ++ w.buffer = bytes
  counted : w.written = count

/-- Some more bytes fit behind the buffer, or there is nothing in it. -/
def HasRoom (w : Writer) (more : Nat) : Prop :=
  w.buffer = [] ∨ w.buffer.length + more ≤ capacity

variable {w : Writer} {place : Place} {bytes : List UInt8} {count : Nat}

/-- Without a buffer everything that was kept is in the file. -/
theorem Keeps.node (keeps : w.Keeps place bytes count) (flushed : w.buffer = []) : w.log.node = .file bytes := by
  obtain ⟨file, node, rfl⟩ := keeps.kept
  rw [flushed, List.append_nil, node]

/-- What a writer has kept is in its file and its buffer. -/
theorem Keeps.unique {other : List UInt8} (keeps : w.Keeps place bytes count) (keeps' : w.Keeps place other count) :
    bytes = other := by
  obtain ⟨file, node, rfl⟩ := keeps.kept
  obtain ⟨file', node', rfl⟩ := keeps'.kept
  cases node.symm.trans node'
  rfl

theorem keeps_empty (path : String) (place : Place) :
    Keeps ⟨path, ⟨place, .file [], false⟩, [], 0⟩ place [] 0 :=
  ⟨rfl, rfl, ⟨[], rfl, rfl⟩, rfl⟩

theorem Keeps.append (keeps : w.Keeps place bytes count) (flushed : w.buffer = []) (more : List UInt8) :
    ∃ log, w.log.append more = (log, .ok ()) ∧ ({ w with log := log } : Writer).Keeps place (bytes ++ more) count := by
  refine ⟨{ w.log with node := .file (bytes ++ more) }, ?_, ?_⟩
  · simp [File.Appender.append, keeps.sound, keeps.node flushed]
  · exact ⟨keeps.placed, keeps.sound, ⟨_, rfl, by simp [flushed]⟩, keeps.counted⟩

theorem Keeps.drain (keeps : w.Keeps place bytes count) :
    ∃ after, w.drain = (after, .ok ()) ∧ after.Keeps place bytes count ∧ after.buffer = [] := by
  rw [Writer.drain]
  by_cases flushed : w.buffer = []
  · exact ⟨w, by simp [flushed], keeps, flushed⟩
  · obtain ⟨file, node, rfl⟩ := keeps.kept
    refine ⟨⟨w.path, { w.log with node := .file (file ++ w.buffer) }, [], w.written⟩, ?_, ?_, rfl⟩
    · simp [File.Appender.append, keeps.sound, node, flushed]
    · exact ⟨keeps.placed, keeps.sound, ⟨_, rfl, List.append_nil _⟩, keeps.counted⟩

theorem Keeps.makeRoom (keeps : w.Keeps place bytes count) (more : Nat) :
    ∃ after, w.makeRoom more = (after, .ok ()) ∧ after.Keeps place bytes count ∧ after.HasRoom more := by
  rw [Writer.makeRoom]
  split
  · obtain ⟨after, drained, kept, flushed⟩ := keeps.drain
    exact ⟨after, drained, kept, .inl flushed⟩
  next fits => exact ⟨w, rfl, keeps, .inr (Nat.le_of_not_lt fits)⟩

/-- A line that no buffer can take finds the buffer empty, so nothing is overtaken. -/
theorem HasRoom.empty {more : Nat} (room : w.HasRoom more) (long : capacity ≤ more) : w.buffer = [] := by
  rcases room with empty | fits
  · exact empty
  · exact List.eq_nil_of_length_eq_zero (by omega)

theorem Keeps.take (keeps : w.Keeps place bytes count) {line : List UInt8} (room : w.HasRoom line.length) :
    ∃ after, w.take line = (after, .ok ()) ∧ after.Keeps place (bytes ++ line) count := by
  rw [Writer.take]
  split
  next long =>
    obtain ⟨log, appended, kept⟩ := keeps.append (room.empty long) line
    exact ⟨_, by rw [appended], kept⟩
  · obtain ⟨file, node, rfl⟩ := keeps.kept
    exact ⟨_, rfl, keeps.placed, keeps.sound, ⟨file, node, (List.append_assoc ..).symm⟩, keeps.counted⟩

/-- An entry is written as one line behind everything before it. -/
theorem Keeps.write (keeps : w.Keeps place bytes count) (e : Entry) :
    ∃ after, w.write e = (after, .ok ()) ∧ after.Keeps place (bytes ++ e.line) (count + 1) := by
  obtain ⟨ready, made, kept, room⟩ := keeps.makeRoom e.line.length
  obtain ⟨taken, took, kept⟩ := kept.take room
  refine ⟨{ taken with written := taken.written + 1 }, ?_, ?_⟩
  · rw [Writer.write, made]
    simp only [took]
  · exact ⟨kept.placed, kept.sound, kept.kept, congrArg (· + 1) kept.counted⟩

/-- A flush brings everything to the file. -/
theorem Keeps.flush (keeps : w.Keeps place bytes count) :
    ∃ after, w.flush = (after, .ok ()) ∧ after.Keeps place bytes count ∧ after.buffer = [] := by
  obtain ⟨after, drained, kept, flushed⟩ := keeps.drain
  refine ⟨after, ?_, kept, flushed⟩
  rw [Writer.flush, drained]
  simp [File.Appender.sync, kept.sound]

/-! ## What stands in the file -/

/-- The log of a writer is a file that begins with an old content. -/
def Extends (w : Writer) (old : List UInt8) : Prop :=
  ∃ more, w.log.node = .file (old ++ more)

section
variable {old : List UInt8}

theorem extends_of_node (file : w.log.node = .file old) : w.Extends old :=
  ⟨[], by rw [file, List.append_nil]⟩

theorem Extends.append (longer : w.Extends old) (bytes : List UInt8) :
    ({ w with log := (w.log.append bytes).1 } : Writer).Extends old := by
  obtain ⟨more, node⟩ := longer
  rw [File.Appender.append]
  split
  · exact ⟨more, node⟩
  · rw [node]
    exact ⟨more ++ bytes, congrArg File.Node.file (List.append_assoc ..)⟩

theorem Extends.drain (longer : w.Extends old) : w.drain.1.Extends old := by
  have appended := longer.append w.buffer
  rw [Writer.drain]
  split
  · exact longer
  · split
    next told => rw [told] at appended; exact appended
    next told => rw [told] at appended; exact appended

theorem Extends.makeRoom (longer : w.Extends old) (more : Nat) : (w.makeRoom more).1.Extends old := by
  rw [Writer.makeRoom]
  split
  · exact longer.drain
  · exact longer

theorem Extends.take (longer : w.Extends old) (line : List UInt8) : (w.take line).1.Extends old := by
  rw [Writer.take]
  split
  · exact longer.append line
  · exact longer

theorem Extends.write (longer : w.Extends old) (e : Entry) : (w.write e).1.Extends old := by
  have ready := longer.makeRoom e.line.length
  rw [Writer.write]
  split
  next made => rw [made] at ready; exact ready
  next made =>
    rw [made] at ready
    have taken := ready.take e.line
    split
    next took => rw [took] at taken; exact taken
    next took => rw [took] at taken; exact taken

theorem Extends.flush (longer : w.Extends old) : w.flush.1.Extends old := by
  have drained := longer.drain
  rw [Writer.flush]
  split
  next left => rw [left] at drained; exact drained
  next after left =>
    rw [left] at drained
    have synced : after.log.sync.1.node = after.log.node := by
      rw [File.Appender.sync]
      split <;> rfl
    split
    next told => rw [told] at synced; exact drained.imp fun _ node => synced.trans node
    next told => rw [told] at synced; exact drained.imp fun _ node => synced.trans node

end

/-! ## Where the log is read -/

/-- A new writer keeps the old bytes of the file that its path leads to. -/
theorem create_ok {s files : Store} {path : String} {w : Writer} (created : create s path = (files, .ok w)) :
    files.Opens path w.log.place ∧ files.node? w.log.place = some w.log.node ∧ w.log.lost = false ∧
      w.buffer = [] ∧ w.written = 0 := by
  rw [create] at created
  split at created
  · cases created
  next =>
    split at created
    · cases created
    next opened =>
      cases created
      obtain ⟨opens, found⟩ := File.Store.openToAppend_ok opened
      exact ⟨opens, found, rfl, rfl, rfl⟩

/-- A new writer has kept what is in its file, and has written nothing. -/
theorem keeps_create {s files : Store} {path : String} {w : Writer} {old : List UInt8}
    (created : create s path = (files, .ok w)) (file : w.log.node = .file old) :
    w.Keeps w.log.place old 0 ∧ w.buffer = [] := by
  obtain ⟨-, -, sound, empty, zero⟩ := create_ok created
  exact ⟨⟨rfl, sound, ⟨old, file, by rw [empty, List.append_nil]⟩, zero⟩, empty⟩

/-- A path to the log of a writer reads what is in the file, but not what is in the buffer. -/
theorem Keeps.read {files : Store} {path : String} (keeps : w.Keeps place bytes count)
    (opens : files.Opens path place) :
    ∃ file, (w.save files).read path = .ok file ∧ file ++ w.buffer = bytes := by
  obtain ⟨file, node, whole⟩ := keeps.kept
  refine ⟨file, ?_, whole⟩
  rw [save, keeps.placed, node]
  exact opens.read_put file

theorem Keeps.read_flushed {files : Store} {path : String} (keeps : w.Keeps place bytes count)
    (opens : files.Opens path place) (flushed : w.buffer = []) : (w.save files).read path = .ok bytes := by
  obtain ⟨file, found, rfl⟩ := keeps.read opens
  rw [found, flushed, List.append_nil]

end Writer

namespace Task

/-- A task has written some entries behind an old content, and its buffer is empty unless it is dirty. -/
structure Holds (t : Task) (place : Place) (old : List UInt8) (entries : List Entry) : Prop where
  keeps : t.writer.Keeps place (old ++ lines entries) entries.length
  clean : t.dirty = false → t.writer.buffer = []

variable {t : Task} {place : Place} {old : List UInt8} {entries : List Entry}

theorem Holds.receive (holds : t.Holds place old entries) (e : Entry) :
    (t.receive e).Holds place old (entries ++ [e]) := by
  obtain ⟨after, written, keeps⟩ := holds.keeps.write e
  rw [Task.receive, written]
  refine ⟨?_, nofun⟩
  rw [lines_concat, ← List.append_assoc, List.length_append]
  exact keeps

theorem Holds.idle (holds : t.Holds place old entries) :
    t.idle.Holds place old entries ∧ t.idle.writer.buffer = [] := by
  rw [Task.idle]
  split
  · obtain ⟨after, flushed, keeps, empty⟩ := holds.keeps.flush
    rw [flushed]
    exact ⟨⟨keeps, fun _ => empty⟩, empty⟩
  next dirty => exact ⟨holds, holds.clean (Bool.eq_false_iff.mpr dirty)⟩

/-- The end of a task is its last flush. -/
theorem Holds.close (holds : t.Holds place old entries) :
    t.close.Keeps place (old ++ lines entries) entries.length ∧ t.close.buffer = [] := by
  rw [Task.close]
  split
  · obtain ⟨after, flushed, keeps, empty⟩ := holds.keeps.flush
    rw [flushed]
    exact ⟨keeps, empty⟩
  next dirty => exact ⟨holds.keeps, holds.clean (Bool.eq_false_iff.mpr dirty)⟩

/-- The task of a new writer has written nothing behind the old content of its file. -/
theorem holds_create {s files : Store} {path : String} {w : Writer} {old : List UInt8}
    (created : Writer.create s path = (files, .ok w)) (file : w.log.node = .file old) :
    Holds ⟨w, false⟩ w.log.place old [] := by
  obtain ⟨keeps, empty⟩ := Writer.keeps_create created file
  refine ⟨?_, fun _ => empty⟩
  simpa [lines] using keeps

section
variable {t : Task} {old : List UInt8}

theorem extends_receive (longer : t.writer.Extends old) (e : Entry) : (t.receive e).writer.Extends old := by
  have written := longer.write e
  rw [Task.receive]
  split
  next done => rw [done] at written; exact written
  next done => rw [done] at written; exact written

theorem extends_idle (longer : t.writer.Extends old) : t.idle.writer.Extends old := by
  have flushed := longer.flush
  rw [Task.idle]
  split
  · split
    next done => rw [done] at flushed; exact flushed
    next done => rw [done] at flushed; exact flushed
  · exact longer

theorem extends_close (longer : t.writer.Extends old) : t.close.Extends old := by
  rw [Task.close]
  split
  · exact longer.flush
  · exact longer

end

end Task

end StreamPolicy.Audit
