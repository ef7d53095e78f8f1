import StreamPolicy.Hash.Sha256
import StreamPolicy.Link.Url
import StreamPolicy.Text.Encoding
import StreamPolicy.Text.Integer

/-!
# Signed links

A storage link is signed by one more argument. Its value is a keyed hash over the canonical storage
path and the expiry, followed by the expiry itself; an expiry of zero never comes.
-/

namespace StreamPolicy.Link

open StreamPolicy.Text

def signParam : String := "sign"

/-- The piece of a resource path behind which the storage path starts. -/
def storageRoute : String := "/d/"

/-- The storage path that a signature covers: each pair of slashes is one slash, then escapes are
decoded. -/
def canonicalPath (raw : String) : String :=
  String.ofList (Percent.decode (replaceAll "//".toList "/".toList raw.toList))

def message (path : String) (expiresAt : UInt64) : String :=
  path ++ ":" ++ Text.ofNat expiresAt.toNat

def signature (path secret : String) (expiresAt : UInt64) : String :=
  let key := Utf8.encode secret.toList
  let body := Utf8.encode (message path expiresAt).toList
  String.ofList (Base64.encode (Hash.hmacSha256 key body).toList)

/-- A signature and the expiry that it covers. -/
structure Token where
  signature : String
  /-- Seconds after the epoch; zero never expires. -/
  expiresAt : UInt64
  deriving DecidableEq, Repr

def Token.make (path secret : String) (expiresAt : UInt64) : Token :=
  ⟨Link.signature path secret expiresAt, expiresAt⟩

def Token.paramValue (t : Token) : String :=
  t.signature ++ ":" ++ Text.ofNat t.expiresAt.toNat

/-- The storage path of a resource path, from the slash that ends its first route mark. -/
def storagePath? (path : List Char) : Option (List Char) :=
  (cut? storageRoute.toList path).map fun (_, rest) => '/' :: rest

def signedPath? (url : String) : Option String :=
  ((resource? url.toList).bind storagePath?).map fun p => canonicalPath (String.ofList p)

/-- The link with a signature. A link that carries one, or that is no storage link, stays as it
is. -/
def signAt (url secret : String) (expiresAt : UInt64) : String :=
  if contains url (signParam ++ "=") then url
  else
    match signedPath? url with
    | none => url
    | some path =>
      url ++ separator url ++ signParam ++ "=" ++ (Token.make path secret expiresAt).paramValue

/-- A point in time, in milliseconds after the epoch. -/
abbrev Instant := Int

/-- Whole seconds after the epoch; no time before the epoch counts. -/
def Instant.seconds (now : Instant) : UInt64 :=
  if now < 0 then 0 else UInt64.ofNat (now.toNat / 1000)

def maxExpiry : UInt64 := UInt64.ofNat uint64Max

def addSaturating (a b : UInt64) : UInt64 :=
  if maxExpiry - a < b then maxExpiry else a + b

def mulSaturating (a b : UInt64) : UInt64 :=
  if a.toNat * b.toNat > uint64Max then maxExpiry else a * b

/-- The expiry of a link that lives for some hours; without hours it never expires. -/
def expiryFromHours (hours : Option UInt64) (now : Instant) : UInt64 :=
  match hours with
  | none => 0
  | some h => if h = 0 then 0 else addSaturating now.seconds (mulSaturating h 3600)

def sign (url secret : String) (hours : Option UInt64) (now : Instant) : String :=
  signAt url secret (expiryFromHours hours now)

end StreamPolicy.Link
