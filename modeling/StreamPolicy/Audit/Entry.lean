import StreamPolicy.Audit.Identifier
import StreamPolicy.Json.Printer
import StreamPolicy.Route.Decision
import StreamPolicy.Text.Utf8
import StreamPolicy.Time.Timestamp

/-!
# Audit entries

An event is something worth recording: what happened, who asked for it, and the details. An entry is
an event with an identifier and the time at which it was recorded. It is written as one line of JSON.
-/

namespace StreamPolicy.Audit

open StreamPolicy.Json

inductive EventKind where
  | routeDecided
  | linkSigned
  | clientLinkIssued
  | itemsHidden
  | policyLoaded
  | processStarted
  | processStopped
  deriving DecidableEq, Repr

namespace EventKind

def all : List EventKind :=
  [.routeDecided, .linkSigned, .clientLinkIssued, .itemsHidden, .policyLoaded, .processStarted,
    .processStopped]

def name : EventKind → String
  | .routeDecided => "route_decided"
  | .linkSigned => "link_signed"
  | .clientLinkIssued => "client_link_issued"
  | .itemsHidden => "items_hidden"
  | .policyLoaded => "policy_loaded"
  | .processStarted => "process_started"
  | .processStopped => "process_stopped"

def ofName? (name : String) : Option EventKind :=
  all.find? fun k => k.name = name

end EventKind

/-- Who asked. -/
structure Origin where
  component : String
  client : Option String
  remoteAddr : Option String
  deriving DecidableEq, Repr

/-- How a request was routed, in texts. -/
structure Verdict where
  decision : String
  matched : Option String
  stage : String
  deriving DecidableEq, Repr

def Verdict.ofOutcome (o : Outcome) : Verdict :=
  ⟨o.decision.tag, o.matched, o.stage.name⟩

/-- Something worth recording. -/
structure Event where
  kind : EventKind
  origin : Origin
  details : Value
  verdict : Option Verdict

structure Entry where
  id : EntryId
  time : Time.Timestamp
  event : Event

/-- A member that is left out when it has no value. -/
def memberOf (key : String) : Option Value → List (String × Value)
  | some v => [(key, v)]
  | none => []

def Origin.toJson (o : Origin) : Value :=
  .obj (("component", .str o.component) :: memberOf "client" (o.client.map .str) ++
    memberOf "remote_addr" (o.remoteAddr.map .str))

def Verdict.toJson (v : Verdict) : Value :=
  .obj (("decision", .str v.decision) :: memberOf "matched" (v.matched.map .str) ++
    [("stage", .str v.stage)])

/-- The members of an event, in the order in which they are written. -/
def Event.members (e : Event) : List (String × Value) :=
  [("event_type", .str e.kind.name), ("source", e.origin.toJson), ("details", e.details)] ++
    memberOf "decision" (e.verdict.map Verdict.toJson)

def Event.toJson (e : Event) : Value :=
  .obj e.members

def Entry.toJson (e : Entry) : Value :=
  .obj (("id", .str e.id.text) :: ("timestamp", .str e.time.text) :: e.event.members)

/-- The characters of the line of an entry, without its end. -/
def Entry.chars (e : Entry) : List Char :=
  e.toJson.compactChars

/-- The bytes of the line of an entry. -/
def Entry.line (e : Entry) : List UInt8 :=
  Text.Utf8.encode (e.chars ++ ['\n'])

end StreamPolicy.Audit
