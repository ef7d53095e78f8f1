import StreamPolicy.Link.Signing
import StreamPolicy.Listing.Hiding
import StreamPolicy.Policy.Basic
import StreamPolicy.Policy.Mapping
import StreamPolicy.Route.Routing
import StreamPolicy.Rule.Reading

/-!
# The gate

A gate is a policy whose rules have been read. It answers how a request is routed, which link a
client gets, what stays of a listing, and where the storage backend has a media file.
-/

namespace StreamPolicy

open StreamPolicy.Json

/-- The link for a client, when an entry names it. The link leads to the storage path, or to the
candidate when there is none. -/
def clientLink? (ctx : Context) (entries : List Entry) (candidate : String)
    (storagePath : Option String) (publicAddr : String) : Option String :=
  (firstMatch? ctx entries candidate .storageLink).map fun e =>
    e.rule.extraText?.getD publicAddr ++ "/d" ++ Link.encodeUri (storagePath.getD candidate)

/-- A policy ready to answer. -/
structure Gate where
  policy : Policy
  route : RoutePolicy
  clientLinks : List Entry
  hidden : List Entry
  mappings : List Mapping

namespace Gate

/-- The gate of a policy; items of its rule lists that write no rule are passed over. -/
def ofPolicy [RegexEngine] (p : Policy) : Gate where
  policy := p
  route := ⟨resolveRoutes p.customRoutes (readEntries p.customRoutes p.routeRules), p.mounts⟩
  clientLinks := readEntries p.customRoutes p.clientLinkRules
  hidden := readEntries p.customRoutes p.hideRules
  mappings := Mapping.readAll p.mappings

def decide (g : Gate) (ctx : Context) (q : RouteQuery) : Outcome :=
  g.route.decide ctx q

/-- A storage link, signed when links are signed. -/
def directLink (g : Gate) (url : String) (now : Link.Instant) : String :=
  let s := g.policy.storage
  if s.signEnabled then Link.sign url s.signSecret s.signExpireHours now else url

def clientLink? (g : Gate) (ctx : Context) (candidate : String) (storagePath : Option String)
    (now : Link.Instant) : Option String :=
  (StreamPolicy.clientLink? ctx g.clientLinks candidate storagePath g.policy.storage.publicAddr).map
    (g.directLink · now)

/-- The listing without hidden items. Without hide rules nothing is looked at. -/
def hideItems (g : Gate) (ctx : Context) (view : Option View) (mainItem : Option String)
    (body : Value) : Value × Except CountOverflow HideOutcome :=
  if g.hidden.isEmpty then (body, .ok ⟨0, ((Listing.items? body).getD []).length⟩)
  else Listing.hide ctx g.hidden view mainItem body

def mapPath (g : Gate) (path : String) : String :=
  Mapping.applyAll g.mappings path

/-- What a gate holds, in one line and without its secret. -/
def summary (g : Gate) : String :=
  Text.join "" ["MediaGate \x7b version: ", Text.quote g.policy.version,
    ", mount_paths: ", Text.quoteList g.route.mounts,
    ", route_rules: ", Text.ofNat g.route.entries.length,
    ", client_link_rules: ", Text.ofNat g.clientLinks.length,
    ", item_hidden_rules: ", Text.ofNat g.hidden.length,
    ", path_mappings: ", Text.ofNat g.mappings.length,
    ", sign_enabled: ", if g.policy.storage.signEnabled then "true" else "false", " \x7d"]

end Gate

end StreamPolicy
