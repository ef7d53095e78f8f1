import StreamPolicy.Command.Line
import StreamPolicy.File.Store
import StreamPolicy.Yaml.Parser
import StreamPolicy.Yaml.Reading

/-!
# Settings

The settings say where the policy and the audit log are. Without a file of settings the usual ones
hold, and the command line has the last word.
-/

namespace StreamPolicy.Command

open StreamPolicy.Yaml (Document Node Reading)

/-- Where the policy and the audit log are, and how much is logged. -/
structure Settings where
  policyFile : String
  level : String
  auditPath : String
  auditEnabled : Bool
  deriving DecidableEq, Repr

inductive SettingsError where
  | unreadable (path : String)
  | malformed (path : String)
  deriving DecidableEq, Repr

def SettingsError.message : SettingsError → String
  | .unreadable path => "failed to read config file " ++ path
  | .malformed path => "failed to parse config file " ++ path

namespace Settings

def usual : Settings :=
  ⟨"policy.yaml", "info", "audit.jsonl", true⟩

/-- The settings of a node that is about logging, with a path of a policy. -/
def readLogging (policyFile : String) (d : Document) (depth : Nat) (n : Node) :
    Reading Settings := do
  let fs ← d.fields depth n
  let level ← fs.usual "level" usual.level d.text
  let auditPath ← fs.usual "audit_log_path" usual.auditPath d.text
  let auditEnabled ← fs.usual "audit_enabled" usual.auditEnabled d.truth
  return ⟨policyFile, level, auditPath, auditEnabled⟩

def read (d : Document) (depth : Nat) (n : Node) : Reading Settings := do
  let fs ← d.fields depth n
  let policyFile ← fs.usual "policy_file" usual.policyFile d.text
  fs.usual "logging" { usual with policyFile := policyFile } (readLogging policyFile d)

def ofYaml? (text : String) : Option Settings :=
  (Document.parse? text).bind fun d => d.readRoot? (read d)

/-- The settings that a file holds; the usual ones if there is no file. -/
def load (s : File.Store) (path : String) : Except SettingsError Settings :=
  if !s.has path then .ok usual
  else
    match s.readText? path with
    | none => .error (.unreadable path)
    | some text =>
      match ofYaml? text with
      | none => .error (.malformed path)
      | some settings => .ok settings

/-- The settings with what a command line says in their place. -/
def withLine (s : Settings) (line : Line) : Settings where
  policyFile := line.policy.getD s.policyFile
  level := s.level
  auditPath := line.auditLog.getD s.auditPath
  auditEnabled := s.auditEnabled && !line.noAudit

end Settings

end StreamPolicy.Command
