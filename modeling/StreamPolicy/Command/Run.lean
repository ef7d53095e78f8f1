import StreamPolicy.Audit.Sink
import StreamPolicy.Command.Report
import StreamPolicy.Command.Settings
import StreamPolicy.Policy.Validation

/-!
# Runs

A run reads the command line, the settings and the policy, gives the report of the subcommand, and
audits what it does: that it starts, that the policy is loaded, the events of the report, and that it
stops. The audit log is complete when the run ends. A run that is aborted does not audit that it stops,
and loses what has not reached its log.
-/

namespace StreamPolicy.Command

open StreamPolicy.Json
open StreamPolicy.Audit (Event EntryId WriteError Writer)

def version : String := "0.1.0"

structure Start where
  words : List String
  files : File.Store
  input : List UInt8
  now : Link.Instant
  /-- The identifier and the time of each entry that is audited. -/
  stamps : Nat → EntryId × Time.Timestamp

inductive RunError where
  | settings (cause : SettingsError)
  | audit (cause : WriteError)
  | policy (cause : PolicyFileError)
  | task (cause : TaskError)
  deriving DecidableEq, Repr

def RunError.message : RunError → String
  | .settings cause => cause.message
  | .audit _ => "failed to start audit logger"
  | .policy _ => "failed to load policy file"
  | .task cause => cause.message

/-- How a run ends. -/
inductive Ending where
  | usage (cause : UsageError)
  | failed (cause : RunError)
  | succeeded (output : String)
  /-- The run is aborted in its subcommand. -/
  | aborted (cause : CountOverflow)

namespace Ending

def exitCode : Ending → Nat
  | .usage cause => cause.exitCode
  | .failed _ => 1
  | .succeeded _ => 0
  | .aborted _ => 101

def printed : Ending → String
  | .usage .version => component ++ " " ++ version ++ "\n"
  | .succeeded output => output ++ "\n"
  | _ => ""

def error? : Ending → Option String
  | .failed cause => some cause.message
  | _ => none

end Ending

def startedEvent (settingsFile : String) : Event :=
  ⟨.processStarted, ownOrigin,
    .object [("version", .str version), ("config_file", .str settingsFile)], none⟩

def loadedEvent (policyFile : String) : Event :=
  ⟨.policyLoaded, ownOrigin, .object [("policy_file", .str policyFile)], none⟩

def stoppedEvent (success : Bool) : Event :=
  ⟨.processStopped, ownOrigin, .object [("success", .bool success)], none⟩

/-- What a subcommand comes to with the policy of a file: the events on the way, and how it ends. -/
def execute (start : Start) (files : File.Store) (policyFile : String) (task : Task) :
    List Event × Ending :=
  match Policy.load files policyFile with
  | .error cause => ([], .failed (.policy cause))
  | .ok policy =>
    match task.report (.ofPolicy policy) ⟨files, start.input, start.now, policyFile⟩ with
    | .error (.failed cause) => ([loadedEvent policyFile], .failed (.task cause))
    | .error (.aborted cause) => ([loadedEvent policyFile], .aborted cause)
    | .ok report => (loadedEvent policyFile :: report.events, .succeeded report.output)

/-- The events of a run whose log is open, in order. -/
def trail (settingsFile : String) (events : List Event) (success : Bool) : List Event :=
  startedEvent settingsFile :: events ++ [stoppedEvent success]

def stamped (stamps : Nat → EntryId × Time.Timestamp) (events : List Event) : List Audit.Entry :=
  events.zipIdx.map fun (e, i) => ⟨(stamps i).1, (stamps i).2, e⟩

/-- A log to which entries are written before it is closed. -/
def audited (w : Writer) (entries : List Audit.Entry) : Writer :=
  (entries.foldl Audit.Task.receive ⟨w, false⟩).close

/-- A log to which entries are sent before the run is aborted: what is in the buffer is lost. -/
def abandoned (w : Writer) (entries : List Audit.Entry) : Writer :=
  (entries.foldl Audit.Task.receive ⟨w, false⟩).writer

/-- The log behind a run with some events on the way. -/
def logBehind (start : Start) (settingsFile : String) (w : Writer) (events : List Event) :
    Ending → Writer
  | .aborted _ => abandoned w (stamped start.stamps (startedEvent settingsFile :: events))
  | ending =>
    audited w (stamped start.stamps (trail settingsFile events (ending.exitCode = 0)))

/-- The files behind a run with an audit log, and how it ends. -/
def runAudited (start : Start) (settings : Settings) (line : Line) : File.Store × Ending :=
  match Writer.create start.files settings.auditPath with
  | (files, .error cause) => (files, .failed (.audit cause))
  | (files, .ok w) =>
    let (events, ending) := execute start files settings.policyFile line.task
    ((logBehind start line.settings w events ending).save files, ending)

def run (start : Start) : File.Store × Ending :=
  match Line.parse start.words with
  | .error cause => (start.files, .usage cause)
  | .ok line =>
    match Settings.load start.files line.settings with
    | .error cause => (start.files, .failed (.settings cause))
    | .ok settings =>
      let settings := settings.withLine line
      if settings.auditEnabled then runAudited start settings line
      else (start.files, (execute start start.files settings.policyFile line.task).2)

end StreamPolicy.Command
