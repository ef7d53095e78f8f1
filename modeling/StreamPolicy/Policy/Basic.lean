import StreamPolicy.Rule.Field

/-!
# Policies

A policy says where media files are mounted, which requests take which route, which clients fetch
from the storage backend themselves, which items stay hidden, and how links are signed. Its rules
stand here as they were written.
-/

namespace StreamPolicy

/-- How clients reach the storage backend, and how links to it are signed. -/
structure Storage where
  publicAddr : String
  signEnabled : Bool
  signSecret : String
  /-- How many hours a signed link lives; without hours, or with none, it never expires. -/
  signExpireHours : Option UInt64
  deriving DecidableEq, Repr

def Storage.usual : Storage :=
  ⟨"", false, "", none⟩

/-- A policy as it was written. -/
structure Policy where
  version : String
  mounts : List String
  customRoutes : List String
  routeRules : List Field
  clientLinkRules : List Field
  hideRules : List Field
  mappings : List Field
  storage : Storage

namespace Storage

def keys : List String :=
  ["public_addr", "sign_enabled", "sign_secret", "sign_expire_hours"]

end Storage

namespace Policy

def ofVersion (version : String) : Policy :=
  ⟨version, [], [], [], [], [], [], .usual⟩

def keys : List String :=
  ["version", "media_mount_path", "route_targets", "route_rule", "client_link_rule",
    "item_hidden_rule", "path_mapping", "storage"]

end Policy

end StreamPolicy
