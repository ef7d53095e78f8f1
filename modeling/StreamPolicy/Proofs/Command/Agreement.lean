import StreamPolicy.Command.Report
import StreamPolicy.Proofs.Json.Reading
import StreamPolicy.Proofs.Listing.Hiding

/-!
# What is printed and what is audited

A subcommand prints a text and leaves events for the audit log. `Agrees` says task by task how the two
fit together, and `agrees_of_report` that they always do. Routes and links are read off the text that is
printed. A listing may hold numbers that are read back as others, so it is the value that is printed.
-/

namespace StreamPolicy.Command

open StreamPolicy.Json
open StreamPolicy.Audit (Event)

/-- An object says how a request was routed. -/
structure Shows (v : Value) (o : Outcome) : Prop where
  decision : v.get? "decision" = some o.decision.toJson
  stage : v.get? "stage" = some o.stage.toJson
  matched : v.get? "matched" = some (.ofOption .str o.matched)
  reason : v.get? "reason" = some (.str o.reason)

/-- An object reveals where a request is led to: a redirect does, by the link itself for a storage link
and by a path of the storage backend for a file, and nothing else does. -/
structure RevealsOnRedirect (v : Value) (d : Decision) (storageLink : Bool) : Prop where
  link : (v.get? "link").isSome = true ↔ d = .redirect ∧ storageLink = true
  path : (v.get? "storage_path").isSome = true ↔ d = .redirect ∧ storageLink = false

/-- What a task prints and what it audits agree. -/
inductive Agrees (g : Gate) (env : Surroundings) (report : Report) : Task → Prop
  /-- The printed outcome is the audited one. -/
  | decideRoute {candidate : String} {storageLink noLocalBypass : Bool} {request : RequestFacts} {o : Outcome}
      {e : Event} {v : Value} (outcome : g.decide request.context ⟨candidate, storageLink, !noLocalBypass⟩ = o)
      (audited : report.events = [e]) (kind : e.kind = .routeDecided) (verdict : e.verdict = some (.ofOutcome o))
      (printed : Value.parseWritten? report.output = some v) (shows : Shows v o)
      (reveals : RevealsOnRedirect v o.decision storageLink) :
      Agrees g env report (.decideRoute candidate storageLink noLocalBypass request)
  /-- A link counts as signed when it is not the given one. -/
  | sign {url : String} {secret : Option String} {expireHours expiresAt : Option UInt64} {e : Event} {signed : Bool}
      (audited : report.events = [e]) (kind : e.kind = .linkSigned)
      (detail : e.details.get? "signed" = some (.bool signed)) (changed : signed = true ↔ report.output ≠ url) :
      Agrees g env report (.sign url secret expireHours expiresAt)
  /-- The printed link is the audited one. -/
  | clientLink {candidate : String} {storagePath : Option String} {request : RequestFacts} {e : Event} {v : Value}
      {link : String} (printed : Value.parseWritten? report.output = some v) (shown : v.get? "link" = some (.str link))
      (audited : report.events = [e]) (kind : e.kind = .clientLinkIssued)
      (detail : e.details.get? "link" = some (.str link)) :
      Agrees g env report (.clientLink candidate storagePath request)
  /-- No link is printed and nothing is audited. -/
  | noClientLink {candidate : String} {storagePath : Option String} {request : RequestFacts} {v : Value}
      (printed : Value.parseWritten? report.output = some v) (shown : v.get? "link" = some .null)
      (audited : report.events = []) : Agrees g env report (.clientLink candidate storagePath request)
  /-- The audited counts are those of the listing that is read and of the one that is printed. -/
  | hideItems {body : Option String} {view : Option View} {mainItem : Option String} {request : RequestFacts}
      {text : String} {listing shown : Value} {e : Event} {hidden remaining : Nat}
      (given : listingText env body = .ok text) (read : Value.parse? text = some listing)
      (audited : report.events = [e]) (kind : e.kind = .itemsHidden)
      (hiddenDetail : e.details.get? "hidden" = some (.nat hidden))
      (remainingDetail : e.details.get? "remaining" = some (.nat remaining))
      (total : hidden + remaining = ((Listing.items? listing).getD []).length) (printed : report.output = shown.pretty)
      (left : ∀ items, Listing.items? listing = some items →
        ∃ kept, Listing.items? shown = some kept ∧ kept.length = remaining) :
      Agrees g env report (.hideItems body view mainItem request)
  | mapPath {path : String} (audited : report.events = []) : Agrees g env report (.mapPath path)
  | check (audited : report.events = []) : Agrees g env report .check

/-! ## Routed requests -/

theorem legible_text {depth : Nat} (s : String) : (Value.str s).Legible depth :=
  trivial

theorem legible_ofOption_text {depth : Nat} (s : Option String) : (Value.ofOption .str s).Legible depth := by
  cases s <;> trivial

theorem legible_decision (d : Decision) (depth : Nat) : d.toJson.Legible (depth + 1) := by
  cases d with
  | custom name => exact Value.legible_object (by simp [legible_text])
  | _ => exact legible_text _

/-- What an outcome is printed with: the text to which a redirect leads, or nothing. -/
inductive TargetOf (o : Outcome) (storageLink : Bool) : Members → Prop
  | link {s : String} (redirect : o.decision = .redirect) (link : storageLink = true) :
      TargetOf o storageLink [("link", .str s)]
  | path {s : String} (redirect : o.decision = .redirect) (file : storageLink = false) :
      TargetOf o storageLink [("storage_path", .str s)]
  | none (other : o.decision ≠ .redirect) : TargetOf o storageLink []

theorem targetOf_redirectTarget (g : Gate) (now : Link.Instant) (q : RouteQuery) (o : Outcome) :
    TargetOf o q.isStorageLink (redirectTarget g now q o) := by
  rw [redirectTarget]
  by_cases redirect : o.decision = .redirect
  · rw [if_neg (not_not.mpr redirect)]
    cases link : q.isStorageLink with
    | true => exact .link redirect rfl
    | false => exact .path redirect rfl
  · rw [if_pos redirect]
    exact .none redirect

namespace TargetOf

variable {o : Outcome} {storageLink : Bool} {target : Members}

theorem legible (targets : TargetOf o storageLink target) (depth : Nat) :
    (Value.object (o.members ++ target)).Legible (depth + 2) := by
  apply Value.legible_object
  intro m member
  rcases List.mem_append.mp member with own | more
  · simp only [Outcome.members, List.mem_cons, List.not_mem_nil, or_false] at own
    rcases own with rfl | rfl | rfl | rfl
    · exact legible_decision o.decision depth
    · exact legible_text _
    · exact legible_ofOption_text o.matched
    · exact legible_text _
  · cases targets with
    | link => rw [List.mem_singleton.mp more]; exact legible_text _
    | path => rw [List.mem_singleton.mp more]; exact legible_text _
    | none => cases more

theorem shows (targets : TargetOf o storageLink target) : Shows (.object (o.members ++ target)) o := by
  cases targets <;> constructor <;> simp [Value.get?_object, Outcome.members]

theorem reveals (targets : TargetOf o storageLink target) :
    RevealsOnRedirect (.object (o.members ++ target)) o.decision storageLink := by
  cases targets with
  | link redirect link => constructor <;> simp [Value.get?_object, Outcome.members, redirect, link]
  | path redirect file => constructor <;> simp [Value.get?_object, Outcome.members, redirect, file]
  | none other => constructor <;> simp [Value.get?_object, Outcome.members, other]

end TargetOf

theorem agrees_decideRoute (g : Gate) (env : Surroundings) (candidate : String) (storageLink noLocalBypass : Bool)
    (request : RequestFacts) :
    Agrees g env (reportDecision g env.now request.context ⟨candidate, storageLink, !noLocalBypass⟩)
      (.decideRoute candidate storageLink noLocalBypass request) := by
  have targets := targetOf_redirectTarget g env.now ⟨candidate, storageLink, !noLocalBypass⟩
    (g.decide request.context ⟨candidate, storageLink, !noLocalBypass⟩)
  exact .decideRoute rfl rfl rfl rfl (Value.parseWritten?_pretty (targets.legible 125)) targets.shows targets.reveals

/-! ## Links -/

theorem agrees_sign {g : Gate} {env : Surroundings} {url : String} {secret : Option String}
    {expireHours expiresAt : Option UInt64} {report : Report}
    (done : (reportSigned g env.now url secret expireHours expiresAt).mapError Interruption.failed = .ok report) :
    Agrees g env report (.sign url secret expireHours expiresAt) := by
  rw [reportSigned] at done
  split at done
  · cases done
  · cases done
    exact .sign rfl rfl (by simp [Value.get?_object]) decide_eq_true_iff

theorem agrees_clientLink (g : Gate) (env : Surroundings) (candidate : String) (storagePath : Option String)
    (request : RequestFacts) :
    Agrees g env (reportClientLink g env.now request.context candidate storagePath)
      (.clientLink candidate storagePath request) := by
  rw [reportClientLink]
  cases g.clientLink? request.context candidate (storagePath.or (storagePathOf candidate)) env.now with
  | some link =>
    have legible : (Value.object [("link", .str link)]).Legible maxDepth :=
      Value.legible_object (by simp [legible_text])
    exact .clientLink (Value.parseWritten?_pretty legible) rfl rfl rfl
      (by simp [Value.get?_object])
  | none =>
    have legible : (Value.object [("link", .null)]).Legible maxDepth :=
      Value.legible_object (by simp [Value.Legible])
    exact .noClientLink (Value.parseWritten?_pretty legible) rfl rfl

/-! ## Listings -/

/-- The counts of a gate are those of the listing that it is given and of the one that it shows. -/
structure Counts (listing shown : Value) (o : HideOutcome) : Prop where
  total : o.hidden + o.remaining = ((Listing.items? listing).getD []).length
  left : ∀ items, Listing.items? listing = some items →
    ∃ kept, Listing.items? shown = some kept ∧ kept.length = o.remaining

theorem counts_hide {ctx : Context} {entries : List Entry} {view : Option View} {mainItem : Option String}
    {listing shown : Value} {o : HideOutcome}
    (hides : Listing.hide ctx entries view mainItem listing = (shown, .ok o)) : Counts listing shown o := by
  cases listed : Listing.items? listing with
  | none =>
    rw [Listing.hide_of_unlisted listed] at hides
    cases hides
    exact ⟨by rw [listed]; rfl, fun items some => by rw [listed] at some; cases some⟩
  | some items =>
    obtain ⟨ms, rfl⟩ := Listing.exists_members_of_items? listed
    rw [Listing.hide_of_listed listed rfl] at hides
    generalize kept : items.filter _ = left at hides
    have fewer : left.length ≤ items.length := kept ▸ List.length_filter_le _ _
    have shows := Listing.items?_reduceTotal (items.length - left.length) (Listing.items?_insert_items left ms)
    obtain ⟨rfl, counted⟩ := Prod.mk.inj hides
    generalize Listing.reduceTotal _ _ = reduced at counted shows ⊢
    cases reduced with
    | error => cases counted
    | ok =>
      cases counted
      refine ⟨?_, fun _ _ => ⟨_, shows, rfl⟩⟩
      rw [listed]
      exact Nat.sub_add_cancel fewer

theorem counts_hideItems {g : Gate} {ctx : Context} {view : Option View} {mainItem : Option String}
    {listing shown : Value} {o : HideOutcome} (hides : g.hideItems ctx view mainItem listing = (shown, .ok o)) :
    Counts listing shown o := by
  rw [Gate.hideItems] at hides
  split at hides
  · cases hides
    exact ⟨Nat.zero_add _, fun items some => ⟨items, some, by rw [some]; rfl⟩⟩
  · exact counts_hide hides

theorem agrees_hideItems {g : Gate} {env : Surroundings} {body : Option String} {view : Option View}
    {mainItem : Option String} {request : RequestFacts} {text : String} {report : Report}
    (given : listingText env body = .ok text)
    (done : reportListing g request.context view mainItem text = .ok report) :
    Agrees g env report (.hideItems body view mainItem request) := by
  rw [reportListing] at done
  split at done
  · cases done
  next listing read =>
    split at done
    · cases done
    next shown outcome hides =>
      have counts := counts_hideItems hides
      cases done
      exact .hideItems given read rfl rfl (by simp [Value.get?_object]) (by simp [Value.get?_object]) counts.total rfl
        counts.left

/-! ## All tasks -/

/-- Whatever a task is asked, what it prints and what it audits agree. -/
theorem agrees_of_report {g : Gate} {env : Surroundings} {task : Task} {report : Report}
    (done : task.report g env = .ok report) : Agrees g env report task := by
  cases task with
  | decideRoute candidate storageLink noLocalBypass request =>
    obtain rfl := Except.ok.inj done
    exact agrees_decideRoute g env candidate storageLink noLocalBypass request
  | sign url secret expireHours expiresAt => exact agrees_sign done
  | clientLink candidate storagePath request =>
    obtain rfl := Except.ok.inj done
    exact agrees_clientLink g env candidate storagePath request
  | hideItems body view mainItem request =>
    rw [Task.report] at done
    split at done
    · cases done
    next text given => exact agrees_hideItems given done
  | mapPath path =>
    obtain rfl := Except.ok.inj done
    exact .mapPath rfl
  | check =>
    rw [Task.report, reportCheck] at done
    split at done
    · cases done
    · obtain rfl := Except.ok.inj done
      exact .check rfl

/-- A gate that hides whatever lies in one directory. -/
def hidingGate : Gate :=
  .ofPolicy { Policy.ofVersion "1.0" with hideRules := [.list [.str "startsWith", .str "/x"]] }

/-- Which of two items stays, when one of them lies in that directory? -/
def hidingTask : Task :=
  .hideItems none none none ⟨[], [], none, false⟩

/-- Surroundings whose standard input is a listing of the two items. -/
def twoItems : Surroundings :=
  ⟨⟨[], []⟩, Text.Utf8.encode "\x7b\"Items\": [\x7b\"Path\": \"/x/a\"\x7d, \x7b\"Path\": \"/y\"\x7d]\x7d".toList, 0,
    "policy.yaml"⟩

theorem agrees_of_report_twoItems :
    ∃ report, hidingTask.report hidingGate twoItems = .ok report ∧
      Value.parseWritten? report.output =
        some (.obj [("Items", .arr [.obj [("Path", .str "/y")]])]) ∧
      Agrees hidingGate twoItems report hidingTask := by
  have printed : (hidingTask.report hidingGate twoItems).toOption.map Report.output =
      some (Value.obj [("Items", .arr [.obj [("Path", .str "/y")]])]).pretty := by
    decide +kernel
  cases done : hidingTask.report hidingGate twoItems with
  | error e => simp [done, Except.toOption] at printed
  | ok report =>
    have output : report.output = (Value.obj [("Items", .arr [.obj [("Path", .str "/y")]])]).pretty := by
      simpa [done, Except.toOption] using printed
    have legible : (Value.obj [("Items", .arr [.obj [("Path", .str "/y")]])]).Legible maxDepth := by
      simp [Value.Legible, LegibleMembers, LegibleItems, maxDepth]
    exact ⟨report, rfl, output ▸ Value.parseWritten?_pretty legible, agrees_of_report done⟩

end StreamPolicy.Command
