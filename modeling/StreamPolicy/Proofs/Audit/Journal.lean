import StreamPolicy.Proofs.Audit.Reading
import StreamPolicy.Proofs.Audit.Writing
import StreamPolicy.Proofs.Json.Compact
import StreamPolicy.Proofs.Text.Lines
import StreamPolicy.Proofs.Text.Utf8

/-!
# The lines of a log

A log is opened to append to it, written and flushed, and opened anew, any number of times. Its file holds
what was in it before and then the lines of all entries. A writer never looks at what it appends to: each
entry is a line of its own that is read as that entry, but when the old content breaks off inside a line
the first entry is one line with what is left of it.
-/

namespace StreamPolicy.Audit

open StreamPolicy.File (Store Place)
open StreamPolicy.Json
open StreamPolicy.Text

/-! ## The line of an entry -/

/-- The entry that a line of a log is read as. -/
def Entry.readLine? (line : List UInt8) : Option Entry :=
  (Utf8.decode? line).bind fun cs => parse? (String.ofList cs)

theorem Entry.readLine?_body {e : Entry} (legible : e.Legible) : readLine? e.body = some e := by
  rw [readLine?, body, Utf8.decode?_encode, Option.bind_some, parse?_chars legible]

/-- The first character of a line with a whole line behind it is no line of an entry. -/
theorem Entry.readLine?_torn (e : Entry) : readLine? (Utf8.encode ('\x7b' :: e.chars)) = none := by
  rw [readLine?, Utf8.decode?_encode, Option.bind_some, parse?]
  have untaken : outline.parse? (String.ofList ('\x7b' :: e.chars)) = none := by
    rw [Outline.parse?, String.toList_ofList, skipSpace_cons (by decide)]
    rfl
  rw [untaken, Option.bind_none]

/-! ## Opening a log again -/

namespace Writer

/-- The directories on the way to a path are there. -/
def HasParents (s : Store) (path : String) : Prop :=
  ∀ up, (File.parent? path).filter (· ≠ "") = some up → s.hasDirectory up = true

variable {s next : Store} {path : String} {place : Place}

theorem HasParents.put (parents : HasParents s path) (file : s.node? place ≠ some .directory) (n : File.Node) :
    HasParents (s.put place n) path :=
  fun up there => File.Store.hasDirectory_put file n (parents up there)

theorem hasParents_of_makeParents (made : makeParents s path = (next, .ok ())) : HasParents next path := by
  intro up there
  rw [makeParents, there] at made
  have named : up ≠ "" := by simpa using (Option.filter_eq_some_iff.mp there).2
  dsimp only at made
  split at made
  next directories =>
    cases made
    exact File.Store.hasDirectory_of_makeDirectories named directories
  · simp at made

/-- Directories that are there are left as they are. -/
theorem HasParents.makeParents (parents : HasParents s path) : makeParents s path = (s, .ok ()) := by
  rw [Writer.makeParents]
  split
  next up there =>
    have named : up ≠ "" := by simpa using (Option.filter_eq_some_iff.mp there).2
    obtain ⟨fuel, long⟩ : ∃ fuel, up.length = fuel + 1 :=
      Nat.exists_eq_succ_of_ne_zero fun empty => named (String.length_eq_zero_iff.mp empty)
    rw [long, File.Store.makeDirectories_of_hasDirectory (parents up there)]
  · rfl

theorem hasParents_of_create {w : Writer} (created : create s path = (next, .ok w)) : HasParents next path := by
  rw [create] at created
  split at created
  · cases created
  next made =>
    split at created
    · cases created
    next opened =>
      cases created
      have parents := hasParents_of_makeParents made
      rw [Store.openToAppend] at opened
      split at opened
      · contradiction
      split at opened
      · contradiction
      split at opened
      next absent =>
        cases opened
        exact parents.put (by simp [absent]) _
      · contradiction
      · cases opened
        exact parents

/-- A log that is there is opened as it is. -/
theorem create_of_opens (parents : HasParents s path) (opens : s.Opens path place) {bytes : List UInt8}
    (found : s.node? place = some (.file bytes)) :
    create s path = (s, .ok ⟨path, ⟨place, .file bytes, false⟩, [], 0⟩) := by
  rw [create, parents.makeParents]
  simp only [opens.openToAppend found]

end Writer

/-! ## What is done to a log -/

/-- The files, and the writer that has the log open, if there is one. -/
structure Journal where
  /-- The files. -/
  files : Store
  /-- The writer; one that is replaced is dropped with what is left in its buffer. -/
  writer : Option Writer

namespace Journal

/-- What is done to a log. -/
inductive Op where
  /-- It is opened. -/
  | create
  /-- An entry is written. -/
  | write (e : Entry)
  /-- What was written is flushed. -/
  | flush

/-- The journal after its writer was used. There is none if that failed. -/
def saved? (files : Store) : Writer × Except WriteError Unit → Option Journal
  | (w, .ok ()) => some ⟨w.save files, some w⟩
  | (_, .error _) => none

/-- The journal of a path after an operation. There is none if that failed, or if there was no writer. -/
def step? (path : String) (j : Journal) : Op → Option Journal
  | .create =>
    match Writer.create j.files path with
    | (files, .ok w) => some ⟨files, some w⟩
    | (_, .error _) => none
  | .write e => j.writer.bind fun w => saved? j.files (w.write e)
  | .flush => j.writer.bind fun w => saved? j.files w.flush

/-- The journal of a path after some operations, when none of them failed. -/
def run? (path : String) (j : Journal) (ops : List Op) : Option Journal :=
  ops.foldlM (step? path) j

/-- The entry that an operation writes, if it does. -/
def Op.written : Op → List Entry
  | .write e => [e]
  | _ => []

/-- The entries that some operations write, in order. -/
def written (ops : List Op) : List Entry :=
  ops.flatMap Op.written

/-- No operation of some, and not their end, drops a writer with entries that are not flushed. `dirty` tells
whether there are such entries at first. -/
def Settled : Bool → List Op → Prop
  | dirty, [] => dirty = false
  | dirty, .create :: ops => dirty = false ∧ Settled false ops
  | _, .write _ :: ops => Settled true ops
  | _, .flush :: ops => Settled false ops

/-- The log of a journal holds some bytes, in its file and in the buffer behind it; without `dirty` all of
them are in the file. -/
structure Holds (j : Journal) (path : String) (place : Place) (bytes : List UInt8) (dirty : Bool) : Prop where
  opens : j.files.Opens path place
  parents : Writer.HasParents j.files path
  writer : ∃ w count, j.writer = some w ∧ w.Keeps place bytes count ∧ j.files.node? place = some w.log.node ∧
    (dirty = false → w.buffer = [])

variable {before files : Store} {path : String} {place : Place} {bytes : List UInt8} {dirty : Bool} {j : Journal}

theorem Holds.read (holds : j.Holds path place bytes false) : j.files.read path = .ok bytes := by
  obtain ⟨w, count, -, keeps, found, clean⟩ := holds.writer
  rw [keeps.node (clean rfl)] at found
  exact holds.opens.read found

theorem holds_create {w : Writer} (created : Writer.create before path = (files, .ok w)) {old : List UInt8}
    (file : w.log.node = .file old) : Holds ⟨files, some w⟩ path w.log.place old false where
  opens := (Writer.create_ok created).1
  parents := Writer.hasParents_of_create created
  writer := by
    obtain ⟨keeps, empty⟩ := Writer.keeps_create created file
    exact ⟨w, 0, rfl, keeps, (Writer.create_ok created).2.1, fun _ => empty⟩

/-- A writer that is opened while the last one has nothing in its buffer goes on where that one has left off. -/
theorem Holds.create (holds : j.Holds path place bytes false) :
    ∃ next, step? path j .create = some next ∧ next.Holds path place bytes false := by
  obtain ⟨w, count, -, keeps, found, clean⟩ := holds.writer
  rw [keeps.node (clean rfl)] at found
  have created := Writer.create_of_opens holds.parents holds.opens found
  exact ⟨_, by rw [step?, created], holds_create created rfl⟩

/-- What a writer leaves in its log is in the files. -/
theorem Holds.save (holds : j.Holds path place bytes dirty) {w : Writer} {count : Nat} {more : List UInt8}
    (keeps : w.Keeps place more count) {unflushed : Bool} (clean : unflushed = false → w.buffer = []) :
    Holds ⟨w.save j.files, some w⟩ path place more unflushed := by
  obtain ⟨file, node, -⟩ := keeps.kept
  refine ⟨?_, ?_, w, count, rfl, keeps, ?_, clean⟩
  · rw [Writer.save, keeps.placed, node]
    exact holds.opens.put File.Node.noConfusion
  · rw [Writer.save, keeps.placed]
    exact holds.parents.put holds.opens.file _
  · rw [Writer.save, keeps.placed]
    exact File.Store.node?_put_self (File.Store.ne_root_of_node? holds.opens.file) _

theorem Holds.write (holds : j.Holds path place bytes dirty) (e : Entry) :
    ∃ next, step? path j (.write e) = some next ∧ next.Holds path place (bytes ++ e.line) true := by
  obtain ⟨w, count, opened, keeps, -⟩ := holds.writer
  obtain ⟨after, written, keeps⟩ := keeps.write e
  refine ⟨⟨after.save j.files, some after⟩, ?_, holds.save keeps nofun⟩
  rw [step?, opened, Option.bind_some, written, saved?]

theorem Holds.flush (holds : j.Holds path place bytes dirty) :
    ∃ next, step? path j .flush = some next ∧ next.Holds path place bytes false := by
  obtain ⟨w, count, opened, keeps, -⟩ := holds.writer
  obtain ⟨after, written, keeps, flushed⟩ := keeps.flush
  refine ⟨⟨after.save j.files, some after⟩, ?_, holds.save keeps fun _ => flushed⟩
  rw [step?, opened, Option.bind_some, written, saved?]

theorem run?_cons {next last : Journal} {op : Op} {ops : List Op} (step : step? path j op = some next)
    (run : run? path next ops = some last) : run? path j (op :: ops) = some last := by
  rw [run?, List.foldlM_cons, step]
  exact run

/-- Operations that drop nothing never fail, and the file holds everything that they write. -/
theorem Holds.run {ops : List Op} (holds : j.Holds path place bytes dirty) (settled : Settled dirty ops) :
    ∃ last, run? path j ops = some last ∧ last.Holds path place (bytes ++ lines (written ops)) false := by
  -- What is held, and whether it is flushed, changes with each operation.
  induction ops generalizing j bytes dirty with
  | nil =>
    obtain rfl : dirty = false := settled
    exact ⟨j, rfl, by simpa [written, lines] using holds⟩
  | cons op ops ih =>
    cases op with
    | create =>
      obtain ⟨rfl, settled⟩ := settled
      obtain ⟨next, step, kept⟩ := holds.create
      obtain ⟨last, run, kept⟩ := ih kept settled
      exact ⟨last, run?_cons step run, kept⟩
    | write e =>
      obtain ⟨next, step, kept⟩ := holds.write e
      obtain ⟨last, run, kept⟩ := ih kept settled
      refine ⟨last, run?_cons step run, ?_⟩
      rwa [List.append_assoc] at kept
    | flush =>
      obtain ⟨next, step, kept⟩ := holds.flush
      obtain ⟨last, run, kept⟩ := ih kept settled
      exact ⟨last, run?_cons step run, kept⟩

/-- A log that was opened is held through operations that drop nothing. -/
theorem exists_run_create {w : Writer} {old : List UInt8} (created : Writer.create before path = (files, .ok w))
    (file : w.log.node = .file old) {ops : List Op} (settled : Settled false ops) :
    ∃ last, run? path ⟨before, none⟩ (.create :: ops) = some last ∧
      last.Holds path w.log.place (old ++ lines (written ops)) false := by
  obtain ⟨last, run, kept⟩ := (holds_create created file).run settled
  have opened : step? path ⟨before, none⟩ .create = some ⟨files, some w⟩ := by rw [step?, created]
  exact ⟨last, run?_cons opened run, kept⟩

/-! ## The lines of its file -/

/-- The file of a log holds its old content and then the lines of all entries that were written through however
many writers, and each of them is read as its entry. All entries but the first are lines of their own. The first is
one exactly when the old content does not break off inside a line: nothing looks at what is appended to. -/
theorem ownLines_iff {w : Writer} {old : List UInt8} (created : Writer.create before path = (files, .ok w))
    (file : w.log.node = .file old) {ops : List Op} (settled : Settled false ops) :
    ∃ last content, run? path ⟨before, none⟩ (.create :: ops) = some last ∧ last.files.read path = .ok content ∧
      content = old ++ lines (written ops) ∧
      ((written ops).map Entry.body <:+ completeLines content ↔ written ops = [] ∨ Ended old) ∧
      (written ops).tail.map Entry.body <:+ completeLines content ∧
      ∀ e ∈ written ops, e.Legible → Entry.readLine? e.body = some e := by
  obtain ⟨last, run, kept⟩ := exists_run_create created file settled
  have whole := lineEnd_not_mem_bodies (written ops)
  refine ⟨last, _, run, kept.read, rfl, ?_, ?_, fun e _ legible => Entry.readLine?_body legible⟩
  · rw [lines_eq, suffix_completeLines_iff whole, List.map_eq_nil_iff]
  · rw [lines_eq, List.map_tail]
    exact tail_suffix_completeLines whole old

theorem create_log (bytes : List UInt8) :
    Writer.create ⟨[(["log"], .file bytes)], []⟩ "log" =
      (⟨[(["log"], .file bytes)], []⟩, .ok ⟨"log", ⟨["log"], .file bytes, false⟩, [], 0⟩) := by
  have names : File.names "log" = ["log"] := by decide +kernel
  have place : Store.place ⟨[(["log"], .file bytes)], []⟩ "log" = .ok ["log"] := by
    rw [Store.place, names]
    rfl
  have parents : Writer.HasParents ⟨[(["log"], .file bytes)], []⟩ "log" := by
    intro up there
    have bare : (File.parent? "log").filter (· ≠ "") = none := by decide +kernel
    rw [bare] at there
    cases there
  exact Writer.create_of_opens parents ⟨place, by decide +kernel, nofun⟩ rfl

/-- A log that was closed in order is written by two writers, one after the other. -/
theorem ownLines_iff_twoWriters :
    let entry (success : Bool) : Entry :=
      ⟨.zero, .epoch, ⟨.processStopped, ⟨"gate", none, none⟩, .obj [("success", .bool success)], none⟩⟩
    let old : List UInt8 := [120, 10]
    let files : Store := ⟨[(["log"], .file old)], []⟩
    let ops : List Op := [.write (entry true), .flush, .create, .write (entry false), .flush]
    Settled false ops ∧ ∃ last content, run? "log" ⟨files, none⟩ (.create :: ops) = some last ∧
      last.files.read "log" = .ok content ∧ [entry true, entry false].map Entry.body <:+ completeLines content ∧
      ∀ e ∈ [entry true, entry false], Entry.readLine? e.body = some e := by
  intro entry old files ops
  have settled : Settled false ops := ⟨rfl, rfl⟩
  have legible (success : Bool) : (entry success).Legible := ⟨rfl, by decide, trivial, trivial⟩
  obtain ⟨last, content, run, read, -, own, -, back⟩ := ownLines_iff (create_log old) rfl settled
  refine ⟨settled, last, content, run, read, own.mpr (.inr (.inr rfl)), fun e member => back e member ?_⟩
  rcases List.mem_pair.mp member with rfl | rfl
  · exact legible true
  · exact legible false

/-- Behind the first byte of a line that was cut short, no line of the file is read as the entry that was written. -/
theorem not_ownLine_torn :
    let e : Entry := ⟨.zero, .epoch, ⟨.processStopped, ⟨"gate", none, none⟩, .null, none⟩⟩
    let files : Store := ⟨[(["log"], .file [0x7b])], []⟩
    let ops : List Op := [.write e, .flush]
    e.Legible ∧ Settled false ops ∧ ∃ last content, run? "log" ⟨files, none⟩ (.create :: ops) = some last ∧
      last.files.read "log" = .ok content ∧ ∀ line ∈ completeLines content, Entry.readLine? line ≠ some e := by
  intro e files ops
  have settled : Settled false ops := rfl
  obtain ⟨last, run, kept⟩ := exists_run_create (create_log [0x7b]) rfl settled
  refine ⟨⟨rfl, trivial⟩, settled, last, _, run, kept.read, ?_⟩
  have whole : ∀ line ∈ [Utf8.encode ('\x7b' :: e.chars)], lineEnd ∉ line := by
    intro line member
    rw [List.mem_singleton.mp member]
    exact List.not_mem_cons_of_ne_of_not_mem (by decide) e.lineEnd_not_mem_body
  have glued : [0x7b] ++ lines (written ops) = joinLines [Utf8.encode ('\x7b' :: e.chars)] ++ [] := by
    rw [lines_eq, List.append_nil]
    rfl
  rw [glued, completeLines_joinLines whole List.not_mem_nil]
  intro line member
  rw [List.mem_singleton.mp member, e.readLine?_torn]
  exact nofun

end Journal

end StreamPolicy.Audit
