import StreamPolicy.Json.Record
import StreamPolicy.Policy.Basic
import StreamPolicy.Yaml.Parser
import StreamPolicy.Yaml.Reading

/-!
# Reading policies

A policy and its storage are records in JSON, and mappings of a document in YAML. Only the version must
be written; everything else is empty when it is left out, and other keys are passed over.
-/

namespace StreamPolicy

/-! ## Policies in JSON -/

section
open StreamPolicy.Json

namespace Storage

def toJson (s : Storage) : Value :=
  .object [("public_addr", .str s.publicAddr), ("sign_enabled", .bool s.signEnabled),
    ("sign_secret", .str s.signSecret),
    ("sign_expire_hours", .ofOption (fun h => .nat h.toNat) s.signExpireHours)]

def ofJson? (v : Value) : Option Storage := do
  let r ← Record.ofValue? keys v
  let addr ← r.usual? "public_addr" Value.str? ""
  let enabled ← r.usual? "sign_enabled" Value.bool? false
  let secret ← r.usual? "sign_secret" Value.str? ""
  let hours ← r.usual? "sign_expire_hours" (Value.orNull? Value.uint64?) none
  return ⟨addr, enabled, secret, hours.map UInt64.ofNat⟩

end Storage

namespace Policy

def toJson (p : Policy) : Value :=
  .object [("version", .str p.version), ("media_mount_path", .strs p.mounts),
    ("route_targets", .strs p.customRoutes), ("route_rule", .arr (p.routeRules.map Field.toJson)),
    ("client_link_rule", .arr (p.clientLinkRules.map Field.toJson)),
    ("item_hidden_rule", .arr (p.hideRules.map Field.toJson)),
    ("path_mapping", .arr (p.mappings.map Field.toJson)), ("storage", p.storage.toJson)]

def texts? : Value → Option (List String) :=
  Value.list? Value.str?

def fields? : Value → Option (List Field) :=
  Value.list? fun v => some (Field.ofJson v)

def ofJson? (v : Value) : Option Policy := do
  let r ← Record.ofValue? keys v
  let version ← r.required? "version" Value.str?
  let mounts ← r.usual? "media_mount_path" texts? []
  let custom ← r.usual? "route_targets" texts? []
  let routeRules ← r.usual? "route_rule" fields? []
  let clientLinkRules ← r.usual? "client_link_rule" fields? []
  let hideRules ← r.usual? "item_hidden_rule" fields? []
  let mappings ← r.usual? "path_mapping" fields? []
  let storage ← r.usual? "storage" Storage.ofJson? .usual
  return ⟨version, mounts, custom, routeRules, clientLinkRules, hideRules, mappings, storage⟩

end Policy

end

/-! ## Policies in YAML -/

section
open StreamPolicy.Yaml

namespace Storage

def read (d : Document) (depth : Nat) (n : Node) : Reading Storage := do
  let fs ← d.fields depth n
  let addr ← fs.usual "public_addr" "" d.text
  let enabled ← fs.usual "sign_enabled" false d.truth
  let secret ← fs.usual "sign_secret" "" d.text
  let hours ← fs.usual "sign_expire_hours" none d.optionalCount
  return ⟨addr, enabled, secret, hours.map UInt64.ofNat⟩

end Storage

namespace Policy

def readTexts (d : Document) (depth : Nat) (n : Node) : Reading (List String) :=
  d.list d.text depth n

def readFields (d : Document) (depth : Nat) (n : Node) : Reading (List Field) :=
  d.list (fun inner n => return Field.ofJson (← d.value inner n)) depth n

def read (d : Document) (depth : Nat) (n : Node) : Reading Policy := do
  let fs ← d.fields depth n
  let version ← fs.required "version" d.text
  let mounts ← fs.usual "media_mount_path" [] (readTexts d)
  let custom ← fs.usual "route_targets" [] (readTexts d)
  let routeRules ← fs.usual "route_rule" [] (readFields d)
  let clientLinkRules ← fs.usual "client_link_rule" [] (readFields d)
  let hideRules ← fs.usual "item_hidden_rule" [] (readFields d)
  let mappings ← fs.usual "path_mapping" [] (readFields d)
  let storage ← fs.usual "storage" .usual (Storage.read d)
  return ⟨version, mounts, custom, routeRules, clientLinkRules, hideRules, mappings, storage⟩

def ofYaml? (text : String) : Option Policy :=
  (Document.parse? text).bind fun d => d.readRoot? (read d)

end Policy

end

end StreamPolicy
