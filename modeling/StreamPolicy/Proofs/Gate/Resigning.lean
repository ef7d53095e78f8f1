import StreamPolicy.Gate
import StreamPolicy.Proofs.Link.Coverage

/-!
# Links that are signed again

A link is settled when no secret and no expiry makes signing change it. Whether signing changes a link
does not depend on the secret or the expiry, and a link that was signed holds the key of a signature, so
one signature settles any link, one that cannot be signed included. Links that a gate gives out are
settled for that gate.
-/

namespace StreamPolicy

namespace Link

/-- Signing leaves the link as it is, whatever the secret and the expiry. -/
def Settled (url : String) : Prop :=
  ∀ secret expiresAt, signAt url secret expiresAt = url

/-- The link signed with one secret and expiry after the other. -/
def signEach (url : String) (keys : List (String × UInt64)) : String :=
  keys.foldl (fun link key => signAt link key.1 key.2) url

theorem signParam_infix_signAt {url secret : String} {expiresAt : UInt64} (changes : signAt url secret expiresAt ≠ url) :
    (signParam ++ "=").toList <:+: (signAt url secret expiresAt).toList := by
  obtain ⟨unsigned, tail, path, found, storage⟩ := signAt_ne_iff.mp changes
  have argument : signArg path secret expiresAt <:+: (signAt url secret expiresAt).toList := by
    rw [toList_signAt unsigned found storage]
    exact ((List.suffix_cons _ _).trans (List.suffix_append _ _)).isInfix
  exact (signParam_infix_signArg path secret expiresAt).trans argument

/-- One signature settles a link. -/
theorem settled_signAt (url secret : String) (expiresAt : UInt64) : Settled (signAt url secret expiresAt) := by
  intro secret' expiresAt'
  by_cases same : signAt url secret expiresAt = url
  · -- What keeps a link from being signed is in the link alone.
    rw [same]
    by_contra changes
    exact signAt_ne_iff.mpr (signAt_ne_iff.mp changes) same
  · exact signAt_of_held (signParam_infix_signAt same) secret' expiresAt'

theorem Settled.signEach_eq {url : String} (settled : Settled url) (keys : List (String × UInt64)) :
    signEach url keys = url := by
  induction keys with
  | nil => rfl
  | cons key keys ih => rwa [signEach, List.foldl_cons, settled key.1 key.2]

theorem Settled.sign_eq {url : String} (settled : Settled url) (secret : String) (hours : Option UInt64) (now : Instant) :
    sign url secret hours now = url :=
  settled secret (expiryFromHours hours now)

end Link

namespace Gate

open StreamPolicy.Link (Instant Settled settled_signAt)

variable {g : Gate} {link : String}

/-- The gate gives the link back as it is, at any time. -/
def Final (g : Gate) (link : String) : Prop :=
  ∀ now, g.directLink link now = link

theorem final_directLink (g : Gate) (url : String) (now : Instant) : g.Final (g.directLink url now) := by
  intro later
  by_cases signs : g.policy.storage.signEnabled = true
  · have once : Settled (g.directLink url now) := by
      rw [directLink, if_pos signs]
      exact settled_signAt url _ _
    rw [directLink, if_pos signs, once.sign_eq]
  · rw [directLink, if_neg signs]

theorem final_of_clientLink? {ctx : Context} {candidate : String} {storagePath : Option String} {now : Instant}
    (given : g.clientLink? ctx candidate storagePath now = some link) : g.Final link := by
  obtain ⟨url, -, rfl⟩ := Option.map_eq_some_iff.mp given
  exact g.final_directLink url now

theorem Final.foldl_directLink (final : g.Final link) (times : List Instant) : times.foldl g.directLink link = link := by
  induction times with
  | nil => rfl
  | cons now times ih => rwa [List.foldl_cons, final now]

/-- Signing a link any number of times, each time with a secret and an expiry of its own, is signing it the
first time. So a link that a gate gives out, for a link or for a client, comes back from it unchanged however
often and whenever it is handed in again. -/
theorem signed_once :
    (∀ url secret expiresAt keys,
      Link.signEach url ((secret, expiresAt) :: keys) = Link.signAt url secret expiresAt) ∧
    ∀ (g : Gate) (times : List Instant),
      (∀ url now, times.foldl g.directLink (g.directLink url now) = g.directLink url now) ∧
      ∀ ctx candidate storagePath now,
        (g.clientLink? ctx candidate storagePath now).map (times.foldl g.directLink) =
          g.clientLink? ctx candidate storagePath now := by
  refine ⟨fun url secret expiresAt keys => ?_, fun g times => ⟨fun url now => ?_, ?_⟩⟩
  · exact (settled_signAt url secret expiresAt).signEach_eq keys
  · exact (g.final_directLink url now).foldl_directLink times
  · intro ctx candidate storagePath now
    cases given : g.clientLink? ctx candidate storagePath now with
    | none => rfl
    | some link => exact congrArg some ((final_of_clientLink? given).foldl_directLink times)

end Gate

end StreamPolicy
