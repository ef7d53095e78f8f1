import StreamPolicy.Proofs.Audit.Journal
import StreamPolicy.Proofs.Audit.Session
import StreamPolicy.Proofs.Listing.Total

/-!
# The trail of a run

A run that can write its log audits that it starts, what happens on the way, and that it stops, whichever
way it ends; a run without a log changes no file. `Course` says what happens on the way without the program
that does it. There is one exception: when the count of a listing overflows the run is aborted, and neither
a report nor the stop is in its log. `leavesTrail_iff` says that nothing else breaks a trail off.
-/

namespace StreamPolicy.Command

open StreamPolicy.Audit (Event Writer Session logged lines)
open StreamPolicy.Json

/-- The task hides so many items of a listing that its count overflows. -/
inductive Task.Overflows (g : Gate) (env : Surroundings) : Task → Prop
  | hideItems {body : Option String} {view : Option View} {mainItem : Option String} {request : RequestFacts}
      {text : String} {listing : Value} {total : Int} (given : listingText env body = .ok text)
      (read : Value.parse? text = some listing) (counted : Listing.total? listing = some total) (other : total ≠ 0)
      (exceeds : ¬ Listing.FitsWord (total - Listing.hiddenCount request.context g.hidden view mainItem listing)) :
      Overflows g env (.hideItems body view mainItem request)

/-- The policy of a run is loaded, and its task overflows. -/
def Overflows (start : Start) (files : File.Store) (policyFile : String) (task : Task) : Prop :=
  ∃ p, Policy.load files policyFile = .ok p ∧
    task.Overflows (.ofPolicy p) ⟨files, start.input, start.now, policyFile⟩

/-- What happens between the start and the stop of a run: the events on the way, and the report if there
is one. -/
inductive Course (start : Start) (files : File.Store) (policyFile : String) (task : Task) :
    List Event → Option Report → Prop
  | noPolicy (missing : ∀ p, Policy.load files policyFile ≠ .ok p) : Course start files policyFile task [] none
  | noReport {p : Policy} (loaded : Policy.load files policyFile = .ok p)
      (fails : ∀ report, task.report (.ofPolicy p) ⟨files, start.input, start.now, policyFile⟩ ≠ .ok report) :
      Course start files policyFile task [loadedEvent policyFile] none
  | reported {p : Policy} {report : Report} (loaded : Policy.load files policyFile = .ok p)
      (succeeds : task.report (.ofPolicy p) ⟨files, start.input, start.now, policyFile⟩ = .ok report) :
      Course start files policyFile task (loadedEvent policyFile :: report.events) (some report)

/-- A run shows whether there is a report by its exit code, and prints the report if there is one. -/
structure Ends (ending : Ending) (report? : Option Report) : Prop where
  exit : ending.exitCode = 0 ↔ report?.isSome = true
  printed : ending.printed = (report?.map (·.output ++ "\n")).getD ""

/-- The log at a path, which stood open with an old content, holds some events behind it at the end of a
run, one entry for each. The same holds for every way in which the log can be written while the run goes
on. -/
def Logs (start : Start) (path : String) (files : File.Store) (w : Writer) (old : List UInt8) (events : List Event) :
    Prop :=
  ∃ entries : List Audit.Entry, entries.map Audit.Entry.event = events ∧
    (run start).1.read path = .ok (old ++ lines entries) ∧
    ∀ acts last, Audit.Run (.start w) acts last → logged acts = entries → last.result?.isSome = true →
      (last.writer.save files).read path = .ok (old ++ lines entries)

/-- The log at a path, which stood open with an old content, holds the beginning of the lines of some events
behind it and nothing else, however far the log was written when the run was aborted. -/
def BreaksOff (start : Start) (path : String) (files : File.Store) (w : Writer) (old : List UInt8)
    (events : List Event) : Prop :=
  ∃ entries : List Audit.Entry, entries.map Audit.Entry.event = events ∧
    (∃ part, part <+: lines entries ∧ (run start).1.read path = .ok (old ++ part)) ∧
    ∀ acts last, Audit.Run (.start w) acts last → logged acts <+: entries →
      ∃ part, part <+: lines entries ∧ (last.writer.save files).read path = .ok (old ++ part)

/-- A run has logged what happened and nothing else, and has ended as it says there. -/
def LeavesTrail (start : Start) (settings : Settings) (line : Line) (files : File.Store) (w : Writer)
    (old : List UInt8) : Prop :=
  ∃ events report?, Course start files settings.policyFile line.task events report? ∧ Ends (run start).2 report? ∧
    Logs start settings.auditPath files w old
      (startedEvent line.settings :: events ++ [stoppedEvent (decide ((run start).2.exitCode = 0))])

/-! ## Counts that overflow -/

/-- A gate without hide rules looks at no count, and no count overflows for it. -/
theorem hideItems_overflows_iff {g : Gate} {ctx : Context} {view : Option View} {mainItem : Option String}
    {listing : Value} :
    (∃ cause, (g.hideItems ctx view mainItem listing).2 = .error cause) ↔
      ∃ total, Listing.total? listing = some total ∧ total ≠ 0 ∧
        ¬ Listing.FitsWord (total - Listing.hiddenCount ctx g.hidden view mainItem listing) := by
  rw [Gate.hideItems]
  split
  next ruleless =>
    rw [List.isEmpty_iff.mp ruleless, Listing.hiddenCount_nil]
    constructor
    · rintro ⟨cause, ⟨⟩⟩
    · rintro ⟨total, counted, -, exceeds⟩
      exact absurd (Listing.fitsWord_sub_zero (Listing.fitsWord_of_total? counted)) exceeds
  next =>
    simp only [Listing.hide_overflows_iff]
    constructor
    · rintro ⟨cause, total, counted, -, other, exceeds⟩
      exact ⟨total, counted, other, exceeds⟩
    · rintro ⟨total, counted, other, exceeds⟩
      exact ⟨_, total, counted, rfl, other, exceeds⟩

theorem reportListing_aborts_iff {g : Gate} {ctx : Context} {view : Option View} {mainItem : Option String}
    {text : String} :
    (∃ cause, reportListing g ctx view mainItem text = .error (.aborted cause)) ↔
      ∃ listing, Value.parse? text = some listing ∧ ∃ cause, (g.hideItems ctx view mainItem listing).2 = .error cause := by
  rw [reportListing]
  cases Value.parse? text with
  | none => simp
  | some listing =>
    simp only [Option.some.injEq, exists_eq_left']
    rcases g.hideItems ctx view mainItem listing with ⟨shown, cause | outcome⟩ <;> simp

/-- A subcommand is aborted by a count that overflows, and by nothing else. -/
theorem report_aborts_iff {g : Gate} {env : Surroundings} {task : Task} :
    (∃ cause, task.report g env = .error (.aborted cause)) ↔ task.Overflows g env := by
  constructor
  · rintro ⟨cause, aborted⟩
    cases task with
    | hideItems body view mainItem request =>
      rw [Task.report] at aborted
      split at aborted
      · cases aborted
      next text given =>
        obtain ⟨listing, read, overflows⟩ := reportListing_aborts_iff.mp ⟨cause, aborted⟩
        obtain ⟨total, counted, other, exceeds⟩ := hideItems_overflows_iff.mp overflows
        exact .hideItems given read counted other exceeds
    | sign url secret expireHours expiresAt =>
      rw [Task.report] at aborted
      cases signed : reportSigned g env.now url secret expireHours expiresAt <;> rw [signed] at aborted <;> cases aborted
    | check =>
      rw [Task.report] at aborted
      cases checked : reportCheck g env.policyFile <;> rw [checked] at aborted <;> cases aborted
    | _ => cases aborted
  · rintro ⟨given, read, counted, other, exceeds⟩
    rw [Task.report, given]
    exact reportListing_aborts_iff.mpr ⟨_, read, hideItems_overflows_iff.mpr ⟨_, counted, other, exceeds⟩⟩

/-! ## What a run comes to -/

theorem ends_failed (cause : RunError) : Ends (.failed cause) none :=
  ⟨iff_of_false Nat.one_ne_zero Bool.false_ne_true, rfl⟩

theorem ends_aborted (cause : CountOverflow) : Ends (.aborted cause) none :=
  ⟨iff_of_false (by decide : (101 : Nat) ≠ 0) Bool.false_ne_true, rfl⟩

theorem ends_succeeded (report : Report) : Ends (.succeeded report.output) (some report) :=
  ⟨iff_of_true rfl rfl, rfl⟩

theorem course_execute (start : Start) (files : File.Store) (policyFile : String) (task : Task) :
    ∃ report?, Course start files policyFile task (execute start files policyFile task).1 report? ∧
      Ends (execute start files policyFile task).2 report? := by
  rw [execute]
  cases loaded : Policy.load files policyFile with
  | error cause => exact ⟨none, .noPolicy (by rw [loaded]; nofun), ends_failed _⟩
  | ok p =>
    dsimp only
    cases given : task.report (.ofPolicy p) ⟨files, start.input, start.now, policyFile⟩ with
    | ok report => exact ⟨some report, .reported loaded given, ends_succeeded report⟩
    | error cause =>
      have none' : Course start files policyFile task [loadedEvent policyFile] none :=
        .noReport loaded (by rw [given]; nofun)
      cases cause with
      | failed cause => exact ⟨none, none', ends_failed _⟩
      | aborted cause => exact ⟨none, none', ends_aborted cause⟩

theorem execute_aborts_iff {start : Start} {files : File.Store} {policyFile : String} {task : Task} :
    (∃ cause, (execute start files policyFile task).2 = .aborted cause) ↔ Overflows start files policyFile task := by
  rw [execute, Overflows]
  cases Policy.load files policyFile with
  | error cause => simp
  | ok p =>
    simp only [Except.ok.injEq, exists_eq_left', ← report_aborts_iff]
    rcases task.report (.ofPolicy p) ⟨files, start.input, start.now, policyFile⟩ with (cause | cause) | report <;> simp

/-- A run that is aborted has loaded its policy, and has come to nothing else. -/
theorem events_of_aborted {start : Start} {files : File.Store} {policyFile : String} {task : Task}
    {cause : CountOverflow} (aborted : (execute start files policyFile task).2 = .aborted cause) :
    (execute start files policyFile task).1 = [loadedEvent policyFile] := by
  rw [execute] at aborted ⊢
  cases loaded : Policy.load files policyFile with
  | error cause => rw [loaded] at aborted; cases aborted
  | ok p =>
    rw [loaded] at aborted
    dsimp only at aborted ⊢
    generalize task.report (.ofPolicy p) ⟨files, start.input, start.now, policyFile⟩ = given at aborted ⊢
    rcases given with (cause | cause) | report
    · rfl
    · rfl
    · cases aborted

/-- A run that is not aborted closes its log. -/
theorem logBehind_of_not_aborted {start : Start} {settingsFile : String} {w : Writer} {events : List Event}
    {ending : Ending} (ended : ∀ cause, ending ≠ .aborted cause) :
    logBehind start settingsFile w events ending =
      audited w (stamped start.stamps (trail settingsFile events (decide (ending.exitCode = 0)))) := by
  cases ending with
  | aborted cause => exact absurd rfl (ended cause)
  | _ => rfl

theorem map_event_stamped (stamps : Nat → Audit.EntryId × Time.Timestamp) (events : List Event) :
    (stamped stamps events).map Audit.Entry.event = events := by
  rw [stamped, List.map_map]
  exact List.zipIdx_map_fst 0 events

/-! ## The log of a run -/

variable {start : Start} {line : Line} {base settings : Settings} {files : File.Store} {w : Writer} {old : List UInt8}

theorem run_eq (parsed : Line.parse start.words = .ok line) (loaded : Settings.load start.files line.settings = .ok base) :
    run start =
      if (base.withLine line).auditEnabled then runAudited start (base.withLine line) line
      else (start.files, (execute start start.files (base.withLine line).policyFile line.task).2) := by
  simp only [run, parsed, loaded]

/-- How a run that can write its log goes on from there. -/
theorem runAudited_eq (created : Writer.create start.files settings.auditPath = (files, .ok w)) (line : Line) :
    runAudited start settings line =
      let executed := execute start files settings.policyFile line.task
      ((logBehind start line.settings w executed.1 executed.2).save files, executed.2) := by
  rw [runAudited, created]

section
variable (ran : run start = runAudited start settings line)
  (created : Writer.create start.files settings.auditPath = (files, .ok w)) (file : w.log.node = .file old)
include ran created file

/-- Without an overflow the log holds the whole trail. -/
theorem leavesTrail_of_not_overflows (fits : ¬ Overflows start files settings.policyFile line.task) :
    LeavesTrail start settings line files w old := by
  obtain ⟨report?, course, ends⟩ := course_execute start files settings.policyFile line.task
  have ended (cause : CountOverflow) : (execute start files settings.policyFile line.task).2 ≠ .aborted cause :=
    fun aborted => fits (execute_aborts_iff.mp ⟨cause, aborted⟩)
  unfold LeavesTrail Logs
  rw [ran, runAudited_eq created]
  refine ⟨_, report?, course, ends, stamped start.stamps _, map_event_stamped _ _, ?_, ?_⟩
  · dsimp only
    rw [logBehind_of_not_aborted ended]
    exact (Audit.read_audited created file _).1
  · intro acts last run same done
    obtain ⟨count, done⟩ := Option.isSome_iff_exists.mp done
    rw [← same]
    exact ((Session.faithful_of_run created file run).ended count done).2

/-- With an overflow the run is aborted, and its log ends behind the policy at the latest. -/
theorem breaksOff_of_overflows (overflows : Overflows start files settings.policyFile line.task) :
    (run start).2.exitCode = 101 ∧ Ends (run start).2 none ∧
      BreaksOff start settings.auditPath files w old [startedEvent line.settings, loadedEvent settings.policyFile] := by
  obtain ⟨cause, aborted⟩ := execute_aborts_iff.mpr overflows
  unfold BreaksOff
  rw [ran, runAudited_eq created]
  dsimp only
  rw [aborted, events_of_aborted aborted]
  refine ⟨rfl, ends_aborted cause, stamped start.stamps _, map_event_stamped _ _, ?_, fun acts last run sent => ?_⟩
  · exact Audit.exists_prefix_of_abandoned created file _
  · obtain ⟨rest, whole⟩ := sent
    obtain ⟨part, beginning, read⟩ := Session.exists_prefix_of_run created file run
    refine ⟨part, beginning.trans ?_, read⟩
    rw [← whole, Audit.lines_append]
    exact List.prefix_append _ _

end

/-- A log that breaks off has no room for more events. -/
theorem not_logs_of_breaksOff {path : String} {events more : List Event}
    (short : BreaksOff start path files w old events) (longer : events.length < more.length) :
    ¬ Logs start path files w old more := by
  rintro ⟨entries', rfl, read', -⟩
  obtain ⟨entries, rfl, ⟨part, beginning, read⟩, -⟩ := short
  obtain rfl : part = lines entries' := List.append_cancel_left (Except.ok.inj (read.symm.trans read'))
  have counts := beginning.sublist.count_le Text.lineEnd
  rw [Audit.count_lineEnd_lines, Audit.count_lineEnd_lines] at counts
  rw [List.length_map, List.length_map] at longer
  omega

theorem not_leavesTrail_of_breaksOff {policyFile : String}
    (short : BreaksOff start settings.auditPath files w old [startedEvent line.settings, loadedEvent policyFile])
    (present : ∃ p, Policy.load files settings.policyFile = .ok p) : ¬ LeavesTrail start settings line files w old := by
  rintro ⟨events, report?, course, -, logs⟩
  refine not_logs_of_breaksOff short ?_ logs
  cases course with
  | noPolicy missing =>
    obtain ⟨p, loaded⟩ := present
    exact absurd loaded (missing p)
  | noReport | reported => simp

/-- A run that knows its settings changes no file, or has a log to which it appends its trail: it does so exactly
when no count overflows in it. Else it is aborted, and the log holds at most the start and the policy. -/
theorem leavesTrail_iff {start : Start} {line : Line} {base : Settings} (parsed : Line.parse start.words = .ok line)
    (loaded : Settings.load start.files line.settings = .ok base) :
    ((base.withLine line).auditEnabled = false →
        (run start).1 = start.files ∧
          ∃ events report?, Course start start.files (base.withLine line).policyFile line.task events report? ∧
            Ends (run start).2 report?) ∧
      ((base.withLine line).auditEnabled = true → ∀ files w old,
        Writer.create start.files (base.withLine line).auditPath = (files, .ok w) → w.log.node = .file old →
          (LeavesTrail start (base.withLine line) line files w old ↔
            ¬ Overflows start files (base.withLine line).policyFile line.task) ∧
          (Overflows start files (base.withLine line).policyFile line.task →
            (run start).2.exitCode = 101 ∧ Ends (run start).2 none ∧
              BreaksOff start (base.withLine line).auditPath files w old
                [startedEvent line.settings, loadedEvent (base.withLine line).policyFile])) := by
  constructor
  · intro disabled
    obtain ⟨report?, course, ends⟩ := course_execute start start.files (base.withLine line).policyFile line.task
    rw [run_eq parsed loaded, disabled, if_neg Bool.false_ne_true]
    exact ⟨rfl, _, report?, course, ends⟩
  · intro enabled files w old created file
    have ran : run start = runAudited start (base.withLine line) line := by
      rw [run_eq parsed loaded, enabled, if_pos rfl]
    refine ⟨⟨fun leaves overflows => ?_, leavesTrail_of_not_overflows ran created file⟩,
      breaksOff_of_overflows ran created file⟩
    obtain ⟨-, -, short⟩ := breaksOff_of_overflows ran created file overflows
    exact not_leavesTrail_of_breaksOff short (overflows.imp fun _ there => there.1) leaves

/-! ## Two runs -/

/-- A run beside a policy, with a log that is not empty. -/
def loggingStart (words : List String) (policy input : String) : Start :=
  ⟨words, ⟨[(["policy.yaml"], .file (Text.Utf8.encode policy.toList)), (["log"], .file [10])], []⟩,
    Text.Utf8.encode input.toList, 0, fun _ => (.zero, .epoch)⟩

/-- The writer of its log. -/
def loggingWriter : Writer :=
  ⟨"log", ⟨["log"], .file [10], false⟩, [], 0⟩

theorem load_loggingStart (words : List String) (policy input : String) :
    Settings.load (loggingStart words policy input).files "config.yaml" = .ok .usual := by
  have names : File.names "config.yaml" = ["config.yaml"] := by decide +kernel
  have absent : (loggingStart words policy input).files.has "config.yaml" = false := by
    rw [File.Store.has, File.Store.look, File.Store.place, names]
    rfl
  rw [Settings.load, absent]
  rfl

theorem create_loggingStart (words : List String) (policy input : String) :
    Writer.create (loggingStart words policy input).files "log" =
      ((loggingStart words policy input).files, .ok loggingWriter) := by
  have names : File.names "log" = ["log"] := by decide +kernel
  have place : (loggingStart words policy input).files.place "log" = .ok ["log"] := by
    rw [File.Store.place, names]
    rfl
  have parents : Writer.HasParents (loggingStart words policy input).files "log" := by
    intro up there
    have bare : (File.parent? "log").filter (· ≠ "") = none := by decide +kernel
    rw [bare] at there
    cases there
  exact Writer.create_of_opens parents ⟨place, rfl, nofun⟩ rfl

/-- How is a file routed by a policy that says nothing? -/
def routingStart : Start :=
  loggingStart ["decide", "/a", "--audit-log", "log"] "version: '1.0'\n" ""

/-- The command line of this run. -/
def routingLine : Line :=
  ⟨"config.yaml", none, some "log", false, .decideRoute "/a" false false ⟨[], [], none, false⟩⟩

/-- The decision is audited between the policy and the stop. -/
theorem leavesTrail_iff_routing :
    Line.parse routingStart.words = .ok routingLine ∧
      Settings.load routingStart.files routingLine.settings = .ok .usual ∧
      Writer.create routingStart.files "log" = (routingStart.files, .ok loggingWriter) ∧
      ¬ Overflows routingStart routingStart.files "policy.yaml" routingLine.task ∧
      (run routingStart).2.exitCode = 0 ∧
      Logs routingStart "log" routingStart.files loggingWriter [10]
        [startedEvent "config.yaml", loadedEvent "policy.yaml",
          ⟨.routeDecided, originOf Context.empty,
            .object [("candidate", .str "/a"), ("storage_link", .bool false)],
            some ⟨"redirect", none, "default"⟩⟩,
          stoppedEvent true] := by
  have parsed : Line.parse routingStart.words = .ok routingLine := by rfl
  have loaded : Settings.load routingStart.files routingLine.settings = .ok .usual := load_loggingStart _ _ _
  have created : Writer.create routingStart.files "log" = (routingStart.files, .ok loggingWriter) :=
    create_loggingStart _ _ _
  have fits : ¬ Overflows routingStart routingStart.files "policy.yaml" routingLine.task := by
    rintro ⟨p, -, ⟨⟩⟩
  obtain ⟨-, audited⟩ := leavesTrail_iff parsed loaded
  obtain ⟨leaves, -⟩ := audited rfl _ loggingWriter [10] created rfl
  obtain ⟨events, report?, course, ends, logs⟩ := leaves.mpr fits
  refine ⟨parsed, loaded, created, fits, ?_⟩
  have verdict : (Policy.load routingStart.files "policy.yaml").toOption.map
      (fun p => Audit.Verdict.ofOutcome ((Gate.ofPolicy p).decide Context.empty ⟨"/a", false, true⟩)) =
      some ⟨"redirect", none, "default"⟩ := by decide +kernel
  cases course with
  | noPolicy missing =>
    cases loaded : Policy.load routingStart.files "policy.yaml" with
    | error cause => rw [loaded] at verdict; cases verdict
    | ok p => exact absurd loaded (missing p)
  | noReport _ fails => exact absurd rfl (fails _)
  | @reported p _ loaded succeeds =>
    cases succeeds
    have well : (run routingStart).2.exitCode = 0 := ends.exit.mpr rfl
    refine ⟨well, ?_⟩
    have verdict' : Audit.Verdict.ofOutcome ((Gate.ofPolicy p).decide Context.empty ⟨"/a", false, true⟩) =
        ⟨"redirect", none, "default"⟩ := by
      rw [show Policy.load routingStart.files "policy.yaml" = .ok p from loaded] at verdict
      exact Option.some.inj verdict
    rw [well] at logs
    rw [← verdict']
    exact logs

/-- Which items stay of a listing with two hidden items and the least count? -/
def overflowingStart : Start :=
  loggingStart ["hide-items", "--audit-log", "log"] "version: '1.0'\nitem_hidden_rule: [[0, /x]]\n"
    "\x7b\"Items\": [\x7b\"Path\": \"/x/a\"\x7d, \x7b\"Path\": \"/x/b\"\x7d], \"TotalRecordCount\": -9223372036854775808\x7d"

/-- The command line of this run. -/
def overflowingLine : Line :=
  ⟨"config.yaml", none, some "log", false, .hideItems none none none ⟨[], [], none, false⟩⟩

theorem overflows_overflowingStart :
    Overflows overflowingStart overflowingStart.files "policy.yaml" overflowingLine.task := by
  have code : (execute overflowingStart overflowingStart.files "policy.yaml" overflowingLine.task).2.exitCode = 101 := by
    decide +kernel
  refine execute_aborts_iff.mp ?_
  generalize (execute overflowingStart overflowingStart.files "policy.yaml" overflowingLine.task).2 = ending at code ⊢
  cases ending with
  | aborted cause => exact ⟨cause, rfl⟩
  | usage cause => cases cause <;> cases code
  | failed | succeeded => cases code

/-- Such a run does not audit that it stops. -/
theorem not_every_run_leavesTrail :
    ¬ ∀ start line base, Line.parse start.words = .ok line → Settings.load start.files line.settings = .ok base →
      (base.withLine line).auditEnabled = true → ∀ files w old,
        Writer.create start.files (base.withLine line).auditPath = (files, .ok w) → w.log.node = .file old →
          LeavesTrail start (base.withLine line) line files w old := by
  intro always
  have parsed : Line.parse overflowingStart.words = .ok overflowingLine := by rfl
  have loaded : Settings.load overflowingStart.files overflowingLine.settings = .ok .usual := load_loggingStart _ _ _
  have created : Writer.create overflowingStart.files "log" = (overflowingStart.files, .ok loggingWriter) :=
    create_loggingStart _ _ _
  have ran : run overflowingStart = runAudited overflowingStart (Settings.usual.withLine overflowingLine) overflowingLine :=
    (run_eq parsed loaded).trans (if_pos rfl)
  obtain ⟨-, -, short⟩ := breaksOff_of_overflows ran created rfl overflows_overflowingStart
  obtain ⟨p, there, -⟩ := overflows_overflowingStart
  exact not_leavesTrail_of_breaksOff short ⟨p, there⟩
    (always overflowingStart overflowingLine .usual parsed loaded rfl _ loggingWriter [10] created rfl)

end StreamPolicy.Command
