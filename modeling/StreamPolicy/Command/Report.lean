import StreamPolicy.Audit.Entry
import StreamPolicy.Command.Line
import StreamPolicy.File.Store
import StreamPolicy.Gate
import StreamPolicy.Json.Parser
import StreamPolicy.Route.Decision

/-!
# Reports

A subcommand gives a report: the text to print, and the events to audit. It prints JSON, except for a
signed link, which it prints as it is. One that fails gives an error instead, and one whose listing has a
count that overflows is aborted.
-/

namespace StreamPolicy.Command

open StreamPolicy.Json
open StreamPolicy.Audit (Event EventKind Origin Verdict)

structure Report where
  output : String
  events : List Event

inductive TaskError where
  | noSecret
  | malformedEntries (policyFile : String) (count : Nat)
  | unreadableListing (path : String)
  | unreadableInput
  | malformedListing
  deriving DecidableEq, Repr

def TaskError.message : TaskError → String
  | .noSecret => "no signing secret: pass --secret or set storage.sign_secret in the policy"
  | .malformedEntries file count =>
    file ++ ": " ++ Text.ofNat count ++ " malformed entries were skipped"
  | .unreadableListing path => "failed to read listing " ++ path
  | .unreadableInput => "failed to read listing from stdin"
  | .malformedListing => "listing is not valid JSON"

/-- Why there is no report. -/
inductive Interruption where
  | failed (cause : TaskError)
  /-- The subcommand does not come to its end, and nothing behind it is done. -/
  | aborted (cause : CountOverflow)
  deriving DecidableEq, Repr

/-- What surrounds a subcommand. -/
structure Surroundings where
  files : File.Store
  input : List UInt8
  now : Link.Instant
  policyFile : String

def component : String := "media-gate"

/-- The names under which clients say what they are, most specific first. -/
def clientKeys : List String := ["X-Emby-Client", "X-Plex-Product"]

def ownOrigin : Origin :=
  ⟨component, none, none⟩

/-- The client of a request asks. An argument counts before a header of the same name. -/
def originOf (ctx : Context) : Origin :=
  ⟨component, clientKeys.findSome? fun key => (ctx.arg? key).or (ctx.header? key), ctx.remoteAddr?⟩

/-- What an outcome is printed with: the link that a redirect leads to, or the path to which it
leads in the storage backend. -/
def redirectTarget (g : Gate) (now : Link.Instant) (q : RouteQuery) (o : Outcome) : Members :=
  if o.decision ≠ .redirect then []
  else if q.isStorageLink then [("link", .str (g.directLink q.candidate now))]
  else [("storage_path", .str (g.mapPath q.candidate))]

def reportDecision (g : Gate) (now : Link.Instant) (ctx : Context) (q : RouteQuery) : Report :=
  let o := g.decide ctx q
  { output := (Value.object (o.members ++ redirectTarget g now q o)).pretty
    events := [{
      kind := .routeDecided
      origin := originOf ctx
      details := .object [("candidate", .str q.candidate), ("storage_link", .bool q.isStorageLink)]
      verdict := some (Verdict.ofOutcome o) }] }

def reportSigned (g : Gate) (now : Link.Instant) (url : String) (secret : Option String)
    (expireHours expiresAt : Option UInt64) : Except TaskError Report :=
  let s := g.policy.storage
  let secret := secret.getD s.signSecret
  if secret = "" then .error .noSecret
  else
    let expiry :=
      expiresAt.getD (Link.expiryFromHours (expireHours.or s.signExpireHours) now)
    let signed := Link.signAt url secret expiry
    .ok {
      output := signed
      events := [{
        kind := .linkSigned
        origin := ownOrigin
        details := .object [("url", .str url), ("expires_at", .nat expiry.toNat),
          ("signed", .bool (signed ≠ url))]
        verdict := none }] }

/-- The storage path of a link: the path of its file, from a root. -/
def storagePathOf (candidate : String) : Option String :=
  (Link.filePathPart? candidate).map fun p => if Link.isAbsolute p then p else "/" ++ p

def reportClientLink (g : Gate) (now : Link.Instant) (ctx : Context) (candidate : String)
    (storagePath : Option String) : Report :=
  let link := g.clientLink? ctx candidate (storagePath.or (storagePathOf candidate)) now
  { output := (Value.object [("link", .ofOption .str link)]).pretty
    events := link.toList.map fun link => {
      kind := .clientLinkIssued
      origin := originOf ctx
      details := .object [("candidate", .str candidate), ("link", .str link)]
      verdict := none } }

/-- The text of a listing: that of a file, or of the standard input. -/
def listingText (env : Surroundings) : Option String → Except TaskError String
  | some path =>
    match env.files.readText? path with
    | some text => .ok text
    | none => .error (.unreadableListing path)
  | none =>
    match Text.Utf8.decode? env.input with
    | some cs => .ok (String.ofList cs)
    | none => .error .unreadableInput

def reportListing (g : Gate) (ctx : Context) (view : Option View) (mainItem : Option String)
    (text : String) : Except Interruption Report :=
  match Value.parse? text with
  | none => .error (.failed .malformedListing)
  | some body =>
    match g.hideItems ctx view mainItem body with
    | (_, .error overflow) => .error (.aborted overflow)
    | (body, .ok outcome) =>
      .ok {
        output := body.pretty
        events := [{
          kind := .itemsHidden
          origin := originOf ctx
          details := .object [("view", .ofOption (fun v => .str v.name) view),
            ("hidden", .nat outcome.hidden), ("remaining", .nat outcome.remaining)]
          verdict := none }] }

def reportMapped (g : Gate) (path : String) : Report :=
  let mapped := g.mapPath path
  { output := (Value.object [("path", .str path), ("mapped", .str mapped),
      ("absolute", .bool (Link.isAbsolute mapped)), ("strm", .bool (Link.isStream mapped))]).pretty
    events := [] }

/-- The rule lists by their keys: how many items each has, and how many of them are used. -/
def ruleCounts (g : Gate) : List (String × Nat × Nat) :=
  [("route_rule", g.policy.routeRules.length, g.route.entries.length),
    ("client_link_rule", g.policy.clientLinkRules.length, g.clientLinks.length),
    ("item_hidden_rule", g.policy.hideRules.length, g.hidden.length),
    ("path_mapping", g.policy.mappings.length, g.mappings.length)]

/-- How many items of the rule lists are not used. -/
def skippedCount (g : Gate) : Nat :=
  ((ruleCounts g).map fun (_, raw, kept) => raw - kept).foldr (· + ·) 0

def reportCheck (g : Gate) (policyFile : String) : Except TaskError Report :=
  if skippedCount g > 0 then .error (.malformedEntries policyFile (skippedCount g))
  else
    .ok {
      output := (Value.object (("policy_file", .str policyFile) ::
        (ruleCounts g).map fun (key, _, kept) => (key, .nat kept))).pretty
      events := [] }

def Task.report (g : Gate) (env : Surroundings) : Task → Except Interruption Report
  | .decideRoute candidate storageLink noLocalBypass request =>
    .ok (reportDecision g env.now request.context ⟨candidate, storageLink, !noLocalBypass⟩)
  | .sign url secret expireHours expiresAt =>
    (reportSigned g env.now url secret expireHours expiresAt).mapError .failed
  | .clientLink candidate storagePath request =>
    .ok (reportClientLink g env.now request.context candidate storagePath)
  | .hideItems body view mainItem request =>
    match listingText env body with
    | .error e => .error (.failed e)
    | .ok text => reportListing g request.context view mainItem text
  | .mapPath path => .ok (reportMapped g path)
  | .check => (reportCheck g env.policyFile).mapError .failed

end StreamPolicy.Command
