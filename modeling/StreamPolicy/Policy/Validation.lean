import StreamPolicy.File.Store
import StreamPolicy.Policy.Reading
import StreamPolicy.Route.Decision
import StreamPolicy.Text.Search

/-!
# Valid policies

A policy is used only if its version is known, its custom routes have names of their own, and links
are not to be signed without a key.
-/

namespace StreamPolicy

/-- Why a policy is not used. -/
inductive PolicyError where
  | malformed
  | unsupportedVersion (version : String)
  | blankRoute
  | builtinRoute (name : String)
  | duplicateRoute (name : String)
  | missingSecret
  deriving DecidableEq, Repr

def PolicyError.message : PolicyError → String
  | .malformed => "YAML deserialization failed"
  | .unsupportedVersion version =>
    "unsupported policy version '" ++ version ++ "'; only '1.0' is supported"
  | .blankRoute => "route target name must not be empty"
  | .builtinRoute name => "route target '" ++ name ++ "' collides with a built-in route"
  | .duplicateRoute name => "duplicate route target: '" ++ name ++ "'"
  | .missingSecret => "storage.sign_enabled requires a non-empty storage.sign_secret"

namespace Policy

def supportedVersion : String := "1.0"

/-- What is wrong with the first bad name among custom routes; `seen` are the names before it. -/
def routeError? (seen : List String) : List String → Option PolicyError
  | [] => none
  | name :: rest =>
    if Text.isBlankText name then some .blankRoute
    else if name ∈ Decision.builtinTags then some (.builtinRoute name)
    else if name ∈ seen then some (.duplicateRoute name)
    else routeError? (name :: seen) rest

def error? (p : Policy) : Option PolicyError :=
  if p.version ≠ supportedVersion then some (.unsupportedVersion p.version)
  else
    match routeError? [] p.customRoutes with
    | some e => some e
    | none =>
      if p.storage.signEnabled && p.storage.signSecret = "" then some .missingSecret else none

def parse (text : String) : Except PolicyError Policy :=
  match ofYaml? text with
  | none => .error .malformed
  | some p =>
    match p.error? with
    | some e => .error e
    | none => .ok p

end Policy

inductive PolicyFileError where
  | unreadable (path : String)
  | invalid (path : String) (cause : PolicyError)
  deriving DecidableEq, Repr

def PolicyFileError.message : PolicyFileError → String
  | .unreadable path => "failed to read policy file: " ++ path
  | .invalid path _ => "failed to parse policy file: " ++ path

def Policy.load (s : File.Store) (path : String) : Except PolicyFileError Policy :=
  match s.readText? path with
  | none => .error (.unreadable path)
  | some text =>
    match Policy.parse text with
    | .error cause => .error (.invalid path cause)
    | .ok p => .ok p

end StreamPolicy
