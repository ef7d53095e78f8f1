import StreamPolicy.Audit.Entry
import StreamPolicy.Json.Outline
import StreamPolicy.Json.Record
import StreamPolicy.Time.Reading

/-!
# Reading audit entries

A line of the audit log is read back as the entry that it writes. Members that an entry does not have
are passed over and need only be well formed; the details may be any value, but must be there.
-/

namespace StreamPolicy.Audit

open StreamPolicy.Json

def EventKind.ofJson? (v : Value) : Option EventKind :=
  v.name?.bind ofName?

/-- A text, or nothing for `null`. -/
def optionalText? : Value → Option (Option String) :=
  Value.orNull? Value.str?

def Origin.fieldNames : List String :=
  ["component", "client", "remote_addr"]

def Origin.ofJson? (v : Value) : Option Origin := do
  let r ← Record.ofValue? fieldNames v
  let component ← r.required? "component" Value.str?
  let client ← r.optional? "client" optionalText?
  let remoteAddr ← r.optional? "remote_addr" optionalText?
  return ⟨component, client, remoteAddr⟩

def Verdict.fieldNames : List String :=
  ["decision", "matched", "stage"]

def Verdict.ofJson? (v : Value) : Option Verdict := do
  let r ← Record.ofValue? fieldNames v
  let decision ← r.required? "decision" Value.str?
  let matched ← r.optional? "matched" optionalText?
  let stage ← r.required? "stage" Value.str?
  return ⟨decision, matched, stage⟩

def Entry.ofJson? (v : Value) : Option Entry := do
  let r ← Record.ofValue? ["id", "timestamp", "event_type", "source", "details", "decision"] v
  let id ← r.required? "id" fun v => v.str?.bind EntryId.parse?
  let time ← r.required? "timestamp" fun v => v.str?.bind Time.Timestamp.parse?
  let kind ← r.required? "event_type" EventKind.ofJson?
  let origin ← r.required? "source" Origin.ofJson?
  let details ← r.required? "details" fun v => some v.sorted
  let verdict ← r.optional? "decision" (Value.orNull? Verdict.ofJson?)
  return ⟨id, time, kind, origin, details, verdict⟩

/-- The members that an entry takes from its line. -/
def Entry.outline : Outline :=
  .members
    [("id", .whole), ("timestamp", .whole), ("event_type", .whole),
     ("source", .ofNames Origin.fieldNames), ("details", .whole),
     ("decision", .ofNames Verdict.fieldNames)]

def Entry.parse? (line : String) : Option Entry :=
  (Entry.outline.parse? line).bind Entry.ofJson?

end StreamPolicy.Audit
