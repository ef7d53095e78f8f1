import StreamPolicy.Link.Signing
import StreamPolicy.Proofs.Text.Encoding
import StreamPolicy.Proofs.Text.Integer
import StreamPolicy.Proofs.Text.Search
import StreamPolicy.Proofs.Text.Utf8

/-!
# What a token binds

The hashed message ends with a colon and the digits of the expiry. No digit is a colon, so its last
colon divides it, whatever the path holds, and no two pairs of a path and an expiry are hashed as the
same bytes. The value that a link carries is divided at its first colon, which no signature holds.
-/

namespace StreamPolicy.Link

open StreamPolicy.Text

/-- The bytes of which the signature of a path and an expiry is the keyed hash. -/
def hashed (path : String) (expiresAt : UInt64) : List UInt8 :=
  Utf8.encode (message path expiresAt).toList

theorem signature_eq (path secret : String) (expiresAt : UInt64) :
    signature path secret expiresAt =
      String.ofList (Base64.encode (Hash.hmacSha256 (Utf8.encode secret.toList) (hashed path expiresAt)).toList) :=
  rfl

theorem colon_not_mem_toDigits (n : Nat) : ':' ∉ Nat.toDigits 10 n :=
  fun member => absurd (isDigit_of_mem_toDigits member) (by decide)

theorem toList_message (path : String) (expiresAt : UInt64) :
    (message path expiresAt).toList = path.toList ++ ':' :: Nat.toDigits 10 expiresAt.toNat := by
  simp [message, toList_ofNat]

/-- A path and an expiry are read off the hashed bytes. -/
theorem hashed_inj {path path' : String} {expiresAt expiresAt' : UInt64} :
    hashed path expiresAt = hashed path' expiresAt' ↔ path = path' ∧ expiresAt = expiresAt' := by
  constructor
  · intro same
    have texts := congrArg Utf8.decodeLossy same
    rw [hashed, hashed, Utf8.decodeLossy_encode, Utf8.decodeLossy_encode, toList_message, toList_message,
      append_cons_inj_last (colon_not_mem_toDigits _) (colon_not_mem_toDigits _)] at texts
    obtain ⟨paths, digits⟩ := texts
    have numbers := congrArg (natIn? 10) digits
    rw [natIn?_toDigits, natIn?_toDigits, Option.some.injEq] at numbers
    exact ⟨String.toList_inj.mp paths, UInt64.toNat_inj.mp numbers⟩
  · rintro ⟨rfl, rfl⟩
    rfl

/-- A signature is forty-three digits of base64 and a fill character. -/
theorem toList_signature (path secret : String) (expiresAt : UInt64) :
    ∃ digits, (signature path secret expiresAt).toList = digits ++ ['='] ∧ digits.length = 43 ∧
      ∀ c ∈ digits, Base64.IsDigit c := by
  have width : (Hash.hmacSha256 (Utf8.encode secret.toList) (hashed path expiresAt)).toList.length = 32 :=
    Vector.length_toList
  have shape := Base64.encode_of_pair_left (show _ % 3 = 2 by rw [width])
  rw [width] at shape
  rwa [signature_eq, String.toList_ofList]

theorem colon_not_mem_signature (path secret : String) (expiresAt : UInt64) :
    ':' ∉ (signature path secret expiresAt).toList := by
  obtain ⟨digits, written, -, all⟩ := toList_signature path secret expiresAt
  rw [written, List.mem_append, not_or]
  exact ⟨fun member => absurd (all _ member) (by decide), by decide⟩

theorem toList_paramValue (t : Token) :
    t.paramValue.toList = t.signature.toList ++ ':' :: Nat.toDigits 10 t.expiresAt.toNat := by
  simp [Token.paramValue, toList_ofNat]

/-- A token whose signature holds no colon is read off the value that carries it. -/
theorem splitOnce?_paramValue {t : Token} (plain : ':' ∉ t.signature.toList) :
    splitOnce? t.paramValue ':' = some (t.signature, Text.ofNat t.expiresAt.toNat) := by
  have cut : cut? [':'] (':' :: Nat.toDigits 10 t.expiresAt.toNat) = some ([], Nat.toDigits 10 t.expiresAt.toNat) := rfl
  have digits : String.ofList (Nat.toDigits 10 t.expiresAt.toNat) = Text.ofNat t.expiresAt.toNat := by
    rw [← toList_ofNat, String.ofList_toList]
  rw [splitOnce?, toList_paramValue, cut?_append_of_not_mem plain, cut]
  simp [digits]

/-- A token binds its path and its expiry: what is hashed under the secret determines both, and the
value that carries the token is forty-three digits of base64, `=`, `:` and the expiry in decimal, from
which the first colon gives back the signature and the expiry. -/
theorem token_binds (secret : String) :
    (∀ path expiresAt, signature path secret expiresAt =
      String.ofList (Base64.encode (Hash.hmacSha256 (Utf8.encode secret.toList) (hashed path expiresAt)).toList)) ∧
    (∀ path₁ path₂ expiresAt₁ expiresAt₂,
      hashed path₁ expiresAt₁ = hashed path₂ expiresAt₂ → path₁ = path₂ ∧ expiresAt₁ = expiresAt₂) ∧
    ∀ path expiresAt, ∃ digits expiry,
      (Token.make path secret expiresAt).paramValue.toList =
        digits ++ '=' :: ':' :: Nat.toDigits 10 expiresAt.toNat ∧
      digits.length = 43 ∧ (∀ c ∈ digits, Base64.IsDigit c) ∧
      splitOnce? (Token.make path secret expiresAt).paramValue ':' = some (signature path secret expiresAt, expiry) ∧
      uint64? expiry = some expiresAt.toNat := by
  refine ⟨fun path expiresAt => signature_eq path secret expiresAt, fun _ _ _ _ same => hashed_inj.mp same, ?_⟩
  intro path expiresAt
  obtain ⟨digits, written, length, all⟩ := toList_signature path secret expiresAt
  have value : (Token.make path secret expiresAt).paramValue.toList =
      digits ++ '=' :: ':' :: Nat.toDigits 10 expiresAt.toNat := by
    rw [toList_paramValue, Token.make, written, List.append_assoc, List.singleton_append]
  have small : expiresAt.toNat ≤ uint64Max := Nat.le_of_lt_succ expiresAt.toNat_lt
  exact ⟨digits, Text.ofNat expiresAt.toNat, value, length, all,
    splitOnce?_paramValue (colon_not_mem_signature path secret expiresAt), uint64?_ofNat small⟩

end StreamPolicy.Link
