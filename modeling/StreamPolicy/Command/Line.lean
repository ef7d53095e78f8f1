import StreamPolicy.Command.Usage
import StreamPolicy.Request.Context

/-!
# The command line

A command line names one subcommand, what it is asked about, and what is known about the request.
Some options may stand on either side of the subcommand; behind it they count for more.
-/

namespace StreamPolicy.Command

/-- What a command line says about a request. -/
structure RequestFacts where
  args : List (String × String)
  headers : List (String × String)
  remoteAddr : Option String
  internal : Bool
  deriving DecidableEq, Repr

def RequestFacts.context (f : RequestFacts) : Context :=
  let ctx := f.args.foldl (fun ctx (k, v) => ctx.withArg k v) Context.empty
  let ctx := f.headers.foldl (fun ctx (k, v) => ctx.withHeader k v) ctx
  let ctx :=
    match f.remoteAddr with
    | some addr => ctx.withRemoteAddr addr
    | none => ctx
  if f.internal then ctx.withArg Context.internalArg "1" else ctx

/-- A subcommand with what it is asked about. -/
inductive Task where
  | decideRoute (candidate : String) (storageLink noLocalBypass : Bool) (request : RequestFacts)
  | sign (url : String) (secret : Option String) (expireHours expiresAt : Option UInt64)
  | clientLink (candidate : String) (storagePath : Option String) (request : RequestFacts)
  | hideItems (body : Option String) (view : Option View) (mainItem : Option String)
      (request : RequestFacts)
  | mapPath (path : String)
  | check
  deriving DecidableEq, Repr

structure Line where
  settings : String
  /-- The path of the policy, in place of the one in the settings. -/
  policy : Option String
  auditLog : Option String
  noAudit : Bool
  task : Task
  deriving DecidableEq, Repr

namespace Line

def usualSettings : String := "config.yaml"

/-- The options that may stand on either side of the subcommand. -/
def sharedSwitches : List Switch :=
  [⟨"config", some 'c', .once .path⟩, ⟨"policy", some 'p', .once .path⟩,
    ⟨"audit-log", none, .once .path⟩, ⟨"no-audit", none, .flag⟩, ⟨"help", some 'h', .help⟩]

def requestSwitches : List Switch :=
  [⟨"arg", none, .many .pair⟩, ⟨"header", none, .many .pair⟩,
    ⟨"remote-addr", none, .once .text⟩, ⟨"internal", none, .flag⟩]

/-- The subcommands, each with its options and whether it has an operand. -/
def commands : List (String × List Switch × Bool) :=
  [("decide", [⟨"storage-link", none, .flag⟩, ⟨"no-local-bypass", none, .flag⟩] ++ requestSwitches,
      true),
    ("sign", [⟨"secret", none, .once .text⟩, ⟨"expire-hours", none, .once .count⟩,
      ⟨"expires-at", none, .once .count⟩], true),
    ("client-link", ⟨"storage-path", none, .once .text⟩ :: requestSwitches, true),
    ("hide-items", [⟨"body", none, .once .path⟩, ⟨"view", none, .once .view⟩,
      ⟨"main-item-path", none, .once .text⟩] ++ requestSwitches, false),
    ("map-path", [], true),
    ("check", [], false)]

def outerGrammar : Grammar :=
  ⟨sharedSwitches ++ [⟨"version", some 'V', .version⟩], false, commands.map Prod.fst⟩

/-- The words behind a subcommand. -/
def innerGrammar (switches : List Switch) (hasOperand : Bool) : Grammar :=
  ⟨switches ++ sharedSwitches, hasOperand, []⟩

def facts (w : Words) : RequestFacts :=
  ⟨(w.values "arg").filterMap pair?, (w.values "header").filterMap pair?, w.value? "remote-addr",
    w.has "internal"⟩

def count? (w : Words) (name : String) : Option UInt64 :=
  ((w.value? name).bind Text.uint64?).map UInt64.ofNat

def view? (w : Words) : Option View :=
  (w.value? "view").bind fun name => (View.ofName name).toOption

def taskOf (command operand : String) (w : Words) : Task :=
  if command = "decide" then
    .decideRoute operand (w.has "storage-link") (w.has "no-local-bypass") (facts w)
  else if command = "sign" then
    .sign operand (w.value? "secret") (count? w "expire-hours") (count? w "expires-at")
  else if command = "client-link" then .clientLink operand (w.value? "storage-path") (facts w)
  else if command = "hide-items" then
    .hideItems (w.value? "body") (view? w) (w.value? "main-item-path") (facts w)
  else if command = "map-path" then .mapPath operand
  else .check

/-- The words behind a subcommand are complete, and go together. -/
def checkInner (hasOperand : Bool) (w : Words) : Except UsageError Unit :=
  if w.has "expire-hours" && w.has "expires-at" then .error .conflict
  else if hasOperand && w.operand.isNone then .error .missingOperand
  else .ok ()

def readInner (command : String) (words : List String) : Except UsageError Words := do
  match commands.find? fun c => c.1 = command with
  | none => throw .unknownCommand
  | some (_, switches, hasOperand) =>
    let (w, _) ← Words.read (innerGrammar switches hasOperand) .empty words
    let w ← w.settle
    checkInner hasOperand w
    return w

def parse (words : List String) : Except UsageError Line := do
  let (outer, sub) ← Words.read outerGrammar .empty words
  match sub with
  | none =>
    let outer ← outer.settle
    throw (if outer.given.isEmpty then .nothing else .missingCommand)
  | some (command, rest) =>
    let inner ← readInner command rest
    let outer ← outer.settle
    let shared (name : String) : Option String := (inner.value? name).or (outer.value? name)
    return ⟨(shared "config").getD usualSettings, shared "policy", shared "audit-log",
      inner.has "no-audit" || outer.has "no-audit", taskOf command (inner.operand.getD "") inner⟩

end Line

end StreamPolicy.Command
