import StreamPolicy.Rule.Evaluation

/-!
# Routing

A request goes through five stages, and the first that decides wins: a file outside every media
mount is proxied, then single proxy rules, then proxy groups, then the other routes in the order in
which they first appear, and last the storage backend. A request of the proxy itself does not ask
rules about the address of the client.
-/

namespace StreamPolicy

/-- The rules that route requests, and the prefixes of files that the storage backend serves. -/
structure RoutePolicy where
  entries : List Entry
  mounts : List String

structure RouteQuery where
  /-- A file path, or a storage link. -/
  candidate : String
  isStorageLink : Bool
  /-- Files outside every media mount may be proxied. -/
  localBypass : Bool

namespace RoutePolicy

/-- There are mounts, and each is a prefix that the candidate does not have. -/
def isOutside (mounts : List String) (candidate : String) : Bool :=
  !mounts.isEmpty && mounts.all fun m => m ≠ "" && !Text.startsWith candidate m

def active (p : RoutePolicy) (ctx : Context) : List Entry :=
  p.entries.filter fun e => !(ctx.isInternal && e.readsRemoteAddr)

end RoutePolicy

namespace Entry

/-- The entry proxies on its own: it has no group, and no route or the route of the proxy. -/
def isSingleProxy : Entry → Bool
  | .bare _ => true
  | .single _ => true
  | .grouped _ _ => false
  | .tagged route group _ => route = .proxy && group.isNone

def proxyGroup? : Entry → Option String
  | .grouped group _ => some group
  | .tagged route group _ => if route = .proxy then group else none
  | _ => none

def otherRoute? (e : Entry) : Option Decision :=
  e.route?.filter (· ≠ .proxy)

end Entry

namespace RoutePolicy

def singleProxy? (ctx : Context) (active : List Entry) (candidate : String) : Option Outcome :=
  (active.find? fun e => e.isSingleProxy && e.rule.holds ctx candidate).map fun e =>
    ⟨.proxy, .singleProxy, some e.display, "proxy rule matched"⟩

def groupProxy? (ctx : Context) (active : List Entry) (candidate : String) : Option Outcome :=
  ((groupBy Entry.proxyGroup? active).find? fun (_, es) =>
    groupHolds ctx (es.map Entry.rule) candidate).map fun (name, _) =>
      ⟨.proxy, .groupProxy, some name, "proxy group matched"⟩

/-- What the entries of one route decide. When the first of them is in a group, all must match;
else one is enough. -/
def routeOutcome? (ctx : Context) (candidate : String) (route : Decision) (es : List Entry) :
    Option Outcome :=
  match es.head?.bind Entry.group? with
  | some group =>
    if groupHolds ctx (es.map Entry.rule) candidate then
      some ⟨route, .taggedRoute, some group, route.tag ++ " group matched"⟩
    else none
  | none =>
    (es.find? fun e => e.rule.holds ctx candidate).map fun e =>
      ⟨route, .taggedRoute, some e.display, route.tag ++ " rule matched"⟩

def taggedRoute? (ctx : Context) (active : List Entry) (candidate : String) : Option Outcome :=
  (groupBy Entry.otherRoute? active).findSome? fun (route, es) =>
    routeOutcome? ctx candidate route es

def hasOtherRoutes (active : List Entry) : Bool :=
  active.any fun e => e.route?.any (· ≠ .proxy)

/-- The stages behind the proxy ones. A storage link for which no entry has another route goes to the
storage backend before the routes are tried. -/
def behindProxy (ctx : Context) (active : List Entry) (q : RouteQuery) : Outcome :=
  if !hasOtherRoutes active && q.isStorageLink then .fallback "storage link with no route rules"
  else (taggedRoute? ctx active q.candidate).getD (.fallback "no rule matched")

def decide (p : RoutePolicy) (ctx : Context) (q : RouteQuery) : Outcome :=
  let active := p.active ctx
  if !q.isStorageLink && q.localBypass && isOutside p.mounts q.candidate then .unmounted
  else
    match singleProxy? ctx active q.candidate with
    | some outcome => outcome
    | none =>
      match groupProxy? ctx active q.candidate with
      | some outcome => outcome
      | none => behindProxy ctx active q

end RoutePolicy

end StreamPolicy
