import StreamPolicy.Command.Run
import StreamPolicy.Proofs.Audit.Writing

/-!
# Sinks at work

The handles of a sink and its task run side by side. An entry that is logged waits in a channel until
the task takes it; the task waits for entries, flushes when none has come for a while, and ends when
none can come any more. However these steps mix, the channel, the buffer and the file hold what was
logged in the order in which it was logged, and the end of the task leaves all of it in the file.
-/

namespace StreamPolicy.Audit

open StreamPolicy.File (Store Place)

/-- A sink at work. -/
inductive Session where
  /-- There are some handles; some entries were sent and not taken yet, oldest first. -/
  | running (handles : Nat) (queue : List Entry) (task : Task)
  /-- The task has ended and left its writer. -/
  | ended (writer : Writer)

/-- What can happen next. -/
inductive Act where
  /-- A handle is copied. -/
  | clone
  /-- A handle is dropped. -/
  | drop
  /-- An entry is logged through some handle. -/
  | log (e : Entry)
  /-- The task takes an entry. -/
  | receive (e : Entry)
  /-- The task has waited for the flush interval. -/
  | idle
  /-- The task is told that nothing will come. -/
  | close

/-- How many entries wait in the channel at most. A handle that logs waits for room. -/
def channelCapacity : Nat := 1024

/-- A step of a session. Time runs out for the task only while there is nothing to take and a handle
is left: an entry that waits is taken at once, and so is the news that nothing will come. -/
inductive Step : Session → Act → Session → Prop where
  | clone {handles queue task} (held : 0 < handles) :
      Step (.running handles queue task) .clone (.running (handles + 1) queue task)
  | drop {handles queue task} :
      Step (.running (handles + 1) queue task) .drop (.running handles queue task)
  | log {handles queue task} (e : Entry) (held : 0 < handles) (room : queue.length < channelCapacity) :
      Step (.running handles queue task) (.log e) (.running handles (queue ++ [e]) task)
  | receive {handles queue task} (e : Entry) :
      Step (.running handles (e :: queue) task) (.receive e) (.running handles queue (task.receive e))
  | idle {handles task} (held : 0 < handles) :
      Step (.running handles [] task) .idle (.running handles [] task.idle)
  | close {task} :
      Step (.running 0 [] task) .close (.ended task.close)

/-- What happens to a session, act by act. -/
inductive Run : Session → List Act → Session → Prop where
  | nil (s : Session) : Run s [] s
  | cons {s next last : Session} {act : Act} {acts : List Act} (step : Step s act next) (run : Run next acts last) :
      Run s (act :: acts) last

theorem Run.append {s mid last : Session} {front back : List Act} (run : Run s front mid) (more : Run mid back last) :
    Run s (front ++ back) last := by
  induction run with
  | nil => exact more
  | cons step _ ih => exact .cons step (ih more)

/-- The entry that an act puts into the channel, if it does. -/
def Act.logged : Act → List Entry
  | .log e => [e]
  | _ => []

/-- The entry that an act takes from the channel, if it does. -/
def Act.received : Act → List Entry
  | .receive e => [e]
  | _ => []

/-- The entries that were logged, in order. -/
def logged (acts : List Act) : List Entry :=
  acts.flatMap Act.logged

/-- The entries that the task has taken, in order. -/
def received (acts : List Act) : List Entry :=
  acts.flatMap Act.received

theorem logged_append (front back : List Act) : logged (front ++ back) = logged front ++ logged back :=
  List.flatMap_append

namespace Session

/-- A new sink has one handle, and an idle task. -/
def start (w : Writer) : Session :=
  .running 1 [] ⟨w, false⟩

/-- How many handles there are. -/
def handles : Session → Nat
  | .running handles _ _ => handles
  | .ended _ => 0

/-- The entries that wait. -/
def queue : Session → List Entry
  | .running _ queue _ => queue
  | .ended _ => []

/-- The writer, with the log. -/
def writer : Session → Writer
  | .running _ _ task => task.writer
  | .ended w => w

/-- Something was written after the last flush. -/
def dirty : Session → Bool
  | .running _ _ task => task.dirty
  | .ended _ => false

/-- What the task returns when it has ended: how many entries it has written. -/
def result? : Session → Option Nat
  | .running _ _ _ => none
  | .ended w => some w.written

/-- What the task still does once there is no handle. -/
def rest : Session → List Act
  | .running _ queue _ => queue.map .receive ++ [.close]
  | .ended _ => []

/-! ## What every run keeps -/

/-- The entries that were sent are those that were taken and those that wait, and what was taken is
written. -/
def Holds (place : Place) (old : List UInt8) (sent taken : List Entry) : Session → Prop
  | .running _ queue task => sent = taken ++ queue ∧ task.Holds place old taken
  | .ended w => sent = taken ∧ w.Keeps place (old ++ lines taken) taken.length ∧ w.buffer = []

variable {place : Place} {old : List UInt8} {sent taken : List Entry} {s next last : Session}

theorem Holds.step {act : Act} (holds : s.Holds place old sent taken) (step : Step s act next) :
    next.Holds place old (sent ++ act.logged) (taken ++ act.received) := by
  cases step with
  | clone | drop =>
    simp only [Act.logged, Act.received, List.append_nil]
    exact holds
  | log e =>
    obtain ⟨rfl, written⟩ := holds
    simp only [Act.logged, Act.received, List.append_nil]
    exact ⟨List.append_assoc .., written⟩
  | receive e =>
    obtain ⟨rfl, written⟩ := holds
    simp only [Act.logged, Act.received, List.append_nil]
    exact ⟨List.append_cons .., written.receive e⟩
  | idle =>
    obtain ⟨rfl, written⟩ := holds
    simp only [Act.logged, Act.received, List.append_nil]
    exact ⟨(List.append_nil _).symm, written.idle.1⟩
  | close =>
    obtain ⟨rfl, written⟩ := holds
    simp only [Act.logged, Act.received, List.append_nil]
    exact ⟨rfl, written.close⟩

theorem Holds.run {acts : List Act} (holds : s.Holds place old sent taken) (run : Run s acts last) :
    last.Holds place old (sent ++ logged acts) (taken ++ received acts) := by
  -- What was sent and taken before the run is general, so that the first step can add to it.
  induction run generalizing sent taken with
  | nil => simpa [logged, received] using holds
  | cons step _ ih =>
    have ahead := ih (holds.step step)
    rwa [List.append_assoc, List.append_assoc] at ahead

theorem Holds.order (holds : s.Holds place old sent taken) : sent = taken ++ s.queue := by
  cases s with
  | running => exact holds.1
  | ended => exact holds.1.trans (List.append_nil _).symm

theorem Holds.keeps (holds : s.Holds place old sent taken) :
    s.writer.Keeps place (old ++ lines taken) taken.length := by
  cases s with
  | running => exact holds.2.keeps
  | ended => exact holds.2.1

theorem Holds.clean (holds : s.Holds place old sent taken) (clean : s.dirty = false) : s.writer.buffer = [] := by
  cases s with
  | running => exact holds.2.clean clean
  | ended => exact holds.2.2

/-- At the end everything that was logged is taken, and nothing is left in the buffer. -/
theorem Holds.ended {count : Nat} (holds : s.Holds place old sent taken) (ended : s.result? = some count) :
    sent = taken ∧ count = taken.length ∧ s.writer.buffer = [] := by
  cases s with
  | running => cases ended
  | ended w =>
    obtain ⟨order, keeps, flushed⟩ := holds
    exact ⟨order, (Option.some.inj ended).symm.trans keeps.counted, flushed⟩

/-- After the flush of an idle task nothing is left in the buffer. -/
theorem Holds.idle (holds : s.Holds place old sent taken) (step : Step s .idle next) : next.writer.buffer = [] := by
  cases step with
  | idle => exact holds.2.idle.2

/-- The file only grows. -/
theorem extends_of_step {act : Act} (longer : s.writer.Extends old) (step : Step s act next) :
    next.writer.Extends old := by
  cases step with
  | clone | drop | log => exact longer
  | receive e => exact Task.extends_receive longer e
  | idle => exact Task.extends_idle longer
  | close => exact Task.extends_close longer

theorem extends_of_run {acts : List Act} (longer : s.writer.Extends old) (run : Run s acts last) :
    last.writer.Extends old := by
  induction run with
  | nil => exact longer
  | cons step _ ih => exact ih (extends_of_step longer step)

theorem holds_start {before files : Store} {path : String} {w : Writer}
    (created : Writer.create before path = (files, .ok w)) (file : w.log.node = .file old) :
    (start w).Holds w.log.place old [] [] :=
  ⟨rfl, Task.holds_create created file⟩

/-! ## How a run ends -/

theorem rest_eq_nil_iff : s.rest = [] ↔ s.result?.isSome := by
  cases s <;> simp [rest, result?]

/-- Without a handle the task does what is left for it, and nothing else happens. -/
theorem rest_of_step {act : Act} (step : Step s act next) (alone : s.handles = 0) :
    next.handles = 0 ∧ s.rest = act :: next.rest := by
  cases step with
  | clone held => exact absurd alone (Nat.ne_of_gt held)
  | drop => cases alone
  | log e held => exact absurd alone (Nat.ne_of_gt held)
  | receive => exact ⟨alone, rfl⟩
  | idle held => exact absurd alone (Nat.ne_of_gt held)
  | close => exact ⟨rfl, rfl⟩

theorem rest_of_run {acts : List Act} (run : Run s acts last) (alone : s.handles = 0) :
    s.rest = acts ++ last.rest := by
  induction run with
  | nil => rfl
  | cons step _ ih =>
    obtain ⟨alone, first⟩ := rest_of_step step alone
    rw [first, ih alone, List.cons_append]

end Session

theorem Run.drops (handles : Nat) (queue : List Entry) (task : Task) :
    Run (.running handles queue task) (List.replicate handles .drop) (.running 0 queue task) := by
  induction handles with
  | zero => exact .nil _
  | succ handles ih => exact .cons .drop ih

theorem Run.receives (handles : Nat) (queue : List Entry) (task : Task) :
    Run (.running handles queue task) (queue.map .receive) (.running handles [] (queue.foldl Task.receive task)) := by
  induction queue generalizing task with
  | nil => exact .nil _
  | cons e queue ih =>
    rw [List.map_cons, List.foldl_cons]
    exact .cons (.receive e) (ih (task.receive e))

theorem Run.close (task : Task) : Run (.running 0 [] task) [.close] (.ended task.close) :=
  .cons .close (.nil _)

/-- A session can always be brought to its end: the handles are dropped, and the task does the rest. -/
theorem Session.can_end (s : Session) : ∃ acts last, Run s acts last ∧ last.result?.isSome := by
  cases s with
  | ended w => exact ⟨[], _, .nil _, rfl⟩
  | running handles queue task =>
    have drained := (Run.receives 0 queue task).append (.close (queue.foldl Task.receive task))
    exact ⟨_, _, (Run.drops handles queue task).append drained, rfl⟩

/-! ## The trail of a session -/

/-- A session whose log stood open with an old content has lost, doubled and moved nothing in some
acts. -/
structure Session.Faithful (s : Session) (files : Store) (path : String) (old : List UInt8) (acts : List Act) :
    Prop where
  /-- What was logged was taken in the same order, or waits. -/
  order : logged acts = received acts ++ s.queue
  /-- What was taken is in the file, or in the buffer behind it. -/
  kept : ∃ content, (s.writer.save files).read path = .ok content ∧
    content ++ s.writer.buffer = old ++ lines (received acts)
  counted : s.writer.written = (received acts).length
  clean : s.dirty = false → s.writer.buffer = []
  /-- An idle task leaves all that was taken in the file. -/
  idle : ∀ next, Step s .idle next → (next.writer.save files).read path = .ok (old ++ lines (received acts))
  /-- At its end the task returns how many entries were logged, and all of them are in the file. -/
  ended : ∀ count, s.result? = some count →
    count = (logged acts).length ∧ (s.writer.save files).read path = .ok (old ++ lines (logged acts))

/-- A session can be brought to its end, and once there is no handle it comes to its end: it takes what
waits, closes the log, and does nothing else. -/
structure Session.Terminates (s : Session) : Prop where
  possible : ∃ acts last, Run s acts last ∧ last.result?.isSome
  certain : s.handles = 0 → ∀ acts last, Run s acts last →
    acts <+: s.rest ∧ (last.result?.isSome ↔ acts = s.rest)

theorem Session.terminates (s : Session) : s.Terminates where
  possible := s.can_end
  certain alone acts last run := by
    rw [← rest_eq_nil_iff, rest_of_run run alone]
    exact ⟨List.prefix_append .., List.self_eq_append_right.symm⟩

theorem Session.Holds.faithful {place : Place} {files : Store} {path : String} {old : List UInt8} {acts : List Act}
    {s : Session} (holds : s.Holds place old (logged acts) (received acts)) (opens : files.Opens path place) :
    s.Faithful files path old acts where
  order := holds.order
  kept := holds.keeps.read opens
  counted := holds.keeps.counted
  clean := holds.clean
  idle next step := by
    have after := holds.step step
    simp only [Act.logged, Act.received, List.append_nil] at after
    exact after.keeps.read_flushed opens (holds.idle step)
  ended count ended := by
    obtain ⟨order, counted, flushed⟩ := holds.ended ended
    rw [order]
    exact ⟨counted, holds.keeps.read_flushed opens flushed⟩

theorem Session.faithful_of_run {before files : Store} {path : String} {w : Writer} {old : List UInt8}
    (created : Writer.create before path = (files, .ok w)) (file : w.log.node = .file old)
    {acts : List Act} {s : Session} (run : Run (.start w) acts s) : s.Faithful files path old acts := by
  obtain ⟨opens, -⟩ := Writer.create_ok created
  have holds : s.Holds w.log.place old (logged acts) (received acts) := (holds_start created file).run run
  exact holds.faithful opens

/-- Wherever a session stands, its file holds the old content and the beginning of what was logged. -/
theorem Session.exists_prefix_of_run {before files : Store} {path : String} {w : Writer} {old : List UInt8}
    (created : Writer.create before path = (files, .ok w)) (file : w.log.node = .file old)
    {acts : List Act} {s : Session} (run : Run (.start w) acts s) :
    ∃ part, part <+: lines (logged acts) ∧ (s.writer.save files).read path = .ok (old ++ part) := by
  obtain ⟨opens, -⟩ := Writer.create_ok created
  have holds : s.Holds w.log.place old (logged acts) (received acts) := (holds_start created file).run run
  obtain ⟨content, node, whole⟩ := holds.keeps.kept
  have longer : (start w).writer.Extends old := Writer.extends_of_node file
  obtain ⟨more, node'⟩ := extends_of_run longer run
  obtain rfl : content = old ++ more := File.Node.file.inj (node.symm.trans node')
  have behind : more ++ s.writer.buffer = lines (received acts) := by
    rwa [List.append_assoc, List.append_cancel_left_eq] at whole
  obtain ⟨content', read, whole'⟩ := holds.keeps.read opens
  obtain rfl : content' = old ++ more := List.append_cancel_right (whole'.trans whole.symm)
  refine ⟨more, ?_, read⟩
  rw [holds.order, lines_append, ← behind]
  exact (List.prefix_append more _).trans (List.prefix_append _ _)

/-- The log of a sink holds what was in the file when it was opened and the lines of the entries that
were logged, whatever the handles and the task do and in whatever order; the line of an entry is its JSON
and a line end. What is appended to a file gets there; a log that is a device keeps nothing. -/
theorem Run.faithful_and_terminates {before files : Store} {path : String} {w : Writer} {old : List UInt8}
    (created : Writer.create before path = (files, .ok w)) (file : w.log.node = .file old)
    {acts : List Act} {s : Session} (run : Run (.start w) acts s) :
    files.read path = .ok old ∧ s.Faithful files path old acts ∧ s.Terminates ∧
      ∀ e ∈ logged acts, e.IsLine e.line := by
  obtain ⟨opens, found, -⟩ := Writer.create_ok created
  have initial : files.read path = .ok old := opens.read (file ▸ found)
  exact ⟨initial, Session.faithful_of_run created file run, s.terminates, fun e _ => e.isLine_line⟩

/-- Two handles log to a file that is not empty, and the task is idle in between. -/
theorem Run.faithful_and_terminates_twoHandles :
    let entry (success : Bool) : Entry := ⟨.zero, .epoch, Command.stoppedEvent success⟩
    let files : Store := ⟨[(["log"], .file [10])], []⟩
    let w : Writer := ⟨"log", ⟨["log"], .file [10], false⟩, [], 0⟩
    let acts : List Act := [.clone, .log (entry true), .receive (entry true), .drop, .idle, .log (entry false), .drop,
      .receive (entry false), .close]
    let last : Session := .ended (((Task.mk w false).receive (entry true)).idle.receive (entry false)).close
    Writer.create files "log" = (files, .ok w) ∧ Run (.start w) acts last ∧ last.result? = some 2 ∧
      (last.writer.save files).read "log" = .ok ([10] ++ lines [entry true, entry false]) ∧
      ∀ e ∈ [entry true, entry false], e.IsLine e.line := by
  intro entry files w acts last
  have created : Writer.create files "log" = (files, .ok w) := by
    have names : File.names "log" = ["log"] := by decide +kernel
    have place : files.place "log" = .ok ["log"] := by
      rw [Store.place, names]
      rfl
    have parents : Writer.makeParents files "log" = (files, .ok ()) := rfl
    rw [Writer.create, parents]
    simp only [Store.openToAppend, place]
    rfl
  have run : Run (.start w) acts last :=
    .cons (.clone (by decide)) <| .cons (.log _ (by decide) (by decide)) <| .cons (.receive _) <| .cons .drop <|
      .cons (.idle (by decide)) <| .cons (.log _ (by decide) (by decide)) <| .cons .drop <| .cons (.receive _) <|
      .cons .close (.nil _)
  obtain ⟨-, faithful, -, line⟩ := Run.faithful_and_terminates created rfl run
  obtain ⟨counted, read⟩ := faithful.ended _ rfl
  exact ⟨created, run, congrArg some counted, read, line⟩

/-! ## Sinks that take every entry at once -/

/-- What can be done with the handles of a sink. -/
inductive Use where
  /-- A handle is copied. -/
  | clone
  /-- A handle is dropped. -/
  | drop
  /-- An entry is sent. -/
  | send (e : Entry)
  /-- Some seconds pass. -/
  | wait (seconds : Nat)

/-- What happens in a session when its sink is used and nothing waits. -/
def Use.acts : Use → List Act
  | .clone => [.clone]
  | .drop => [.drop]
  | .send e => [.log e, .receive e]
  | .wait seconds => if seconds < flushInterval then [] else [.idle]

namespace Sink

/-- The sink after a use. -/
def use (k : Sink) : Use → Sink
  | .clone => k.clone
  | .drop => k.drop
  | .send e => k.send e
  | .wait seconds => k.wait seconds

/-- The session of a sink whose task has not ended; nothing waits in it. -/
def session? (k : Sink) : Option Session :=
  k.task.map (.running k.handles [])

/-- There is a handle whenever the sink is used. -/
def Usable (k : Sink) : List Use → Prop
  | [] => True
  | u :: uses => 0 < k.handles ∧ (k.use u).Usable uses

end Sink

theorem Run.log_receive {handles : Nat} (held : 0 < handles) (task : Task) (e : Entry) :
    Run (.running handles [] task) [.log e, .receive e] (.running handles [] (task.receive e)) :=
  .cons (.log e held (by decide)) (.cons (.receive e) (.nil _))

/-- A sink is a session that takes every entry at once. -/
theorem Sink.run_use {k : Sink} {s : Session} (shown : k.session? = some s) (held : 0 < k.handles) (u : Use) :
    ∃ next, (k.use u).session? = some next ∧ Run s u.acts next := by
  obtain ⟨handles, task⟩ := k
  obtain ⟨task, rfl, rfl⟩ := Option.map_eq_some_iff.mp shown
  obtain ⟨handles, rfl⟩ : ∃ fewer, handles = fewer + 1 := Nat.exists_eq_succ_of_ne_zero (Nat.ne_of_gt held)
  cases u with
  | clone => exact ⟨_, rfl, .cons (.clone held) (.nil _)⟩
  | drop => exact ⟨_, rfl, .cons .drop (.nil _)⟩
  | send e => exact ⟨_, rfl, .log_receive held task e⟩
  | wait seconds =>
    by_cases short : seconds < flushInterval
    · exact ⟨.running (handles + 1) [] task, by simp [use, wait, short, session?],
        by simpa [Use.acts, short] using .nil _⟩
    · exact ⟨.running (handles + 1) [] task.idle, by simp [use, wait, short, session?],
        by simpa [Use.acts, short] using .cons (.idle held) (.nil _)⟩

theorem Sink.run_uses {uses : List Use} {k : Sink} {s : Session} (shown : k.session? = some s)
    (usable : k.Usable uses) :
    ∃ next, (uses.foldl Sink.use k).session? = some next ∧ Run s (uses.flatMap Use.acts) next := by
  induction uses generalizing k s with
  | nil => exact ⟨s, shown, .nil s⟩
  | cons u uses ih =>
    obtain ⟨mid, shown, run⟩ := run_use shown usable.1 u
    obtain ⟨next, shown, more⟩ := ih shown usable.2
    exact ⟨next, shown, run.append more⟩

/-- Joining a sink drops its handles and lets the task end. -/
theorem Sink.run_join {k : Sink} {s : Session} (shown : k.session? = some s) :
    ∃ w, k.join.2 = some w ∧ Run s (List.replicate k.handles .drop ++ [.close]) (.ended w) := by
  obtain ⟨handles, task⟩ := k
  obtain ⟨task, rfl, rfl⟩ := Option.map_eq_some_iff.mp shown
  exact ⟨_, rfl, (Run.drops handles [] task).append (.close task)⟩

/-- The log of a sink that was used and joined holds the lines of what was sent. -/
theorem Sink.read_joined {before files : Store} {path : String} {w : Writer} {old : List UInt8}
    (created : Writer.create before path = (files, .ok w)) (file : w.log.node = .file old) {uses : List Use}
    (usable : (ofWriter w).Usable uses) :
    ∃ left, (uses.foldl Sink.use (ofWriter w)).join.2 = some left ∧
      (left.save files).read path = .ok (old ++ lines (logged (uses.flatMap Use.acts))) ∧
      left.written = (logged (uses.flatMap Use.acts)).length := by
  obtain ⟨next, shown, run⟩ := run_uses (s := .start w) rfl usable
  obtain ⟨left, joined, ending⟩ := run_join shown
  have silent : ∀ handles : Nat, logged (List.replicate handles .drop ++ [.close]) = [] := fun handles => by
    induction handles with
    | zero => rfl
    | succ handles ih => exact ih
  have faithful := Session.faithful_of_run created file (run.append ending)
  obtain ⟨counted, read⟩ := faithful.ended _ rfl
  rw [logged_append, silent, List.append_nil] at counted read
  exact ⟨left, joined, read, counted⟩

/-- The acts of a command that logs some entries, up to its end. -/
def sendActs (entries : List Entry) : List Act :=
  entries.flatMap fun e => [.log e, .receive e]

theorem logged_sendActs (entries : List Entry) : logged (sendActs entries) = entries := by
  rw [logged, sendActs, List.flatMap_assoc]
  simp [Act.logged]

theorem run_sendActs (entries : List Entry) (task : Task) :
    Run (.running 1 [] task) (sendActs entries) (.running 1 [] (entries.foldl Task.receive task)) := by
  induction entries generalizing task with
  | nil => exact .nil _
  | cons e entries ih =>
    rw [sendActs, List.flatMap_cons, List.foldl_cons]
    exact (Run.log_receive Nat.one_pos task e).append (ih (task.receive e))

/-- The entries of a command are logged through one handle, which is dropped at its end. -/
theorem run_audited (w : Writer) (entries : List Entry) :
    Run (.start w) (sendActs entries ++ [.drop, .close]) (.ended (Command.audited w entries)) :=
  (run_sendActs entries ⟨w, false⟩).append (.cons .drop (.close _))

/-- The log of a command holds the lines of its entries behind what was in it. -/
theorem read_audited {before files : Store} {path : String} {w : Writer} {old : List UInt8}
    (created : Writer.create before path = (files, .ok w)) (file : w.log.node = .file old) (entries : List Entry) :
    ((Command.audited w entries).save files).read path = .ok (old ++ lines entries) ∧
      (Command.audited w entries).written = entries.length := by
  have faithful := Session.faithful_of_run created file (run_audited w entries)
  have all : logged (sendActs entries ++ [.drop, .close]) = entries := by
    rw [logged_append, logged_sendActs]
    exact List.append_nil entries
  obtain ⟨counted, read⟩ := faithful.ended _ rfl
  rw [all] at counted read
  exact ⟨read, counted⟩

/-- The log of a command that is aborted holds the beginning of the lines of its entries. -/
theorem exists_prefix_of_abandoned {before files : Store} {path : String} {w : Writer} {old : List UInt8}
    (created : Writer.create before path = (files, .ok w)) (file : w.log.node = .file old) (entries : List Entry) :
    ∃ part, part <+: lines entries ∧
      ((Command.abandoned w entries).save files).read path = .ok (old ++ part) := by
  obtain ⟨part, beginning, read⟩ := Session.exists_prefix_of_run created file (run_sendActs entries ⟨w, false⟩)
  rw [logged_sendActs] at beginning
  exact ⟨part, beginning, read⟩

end StreamPolicy.Audit
