import Mathlib.Data.Bool.AllAny
import StreamPolicy.Link.Signing
import StreamPolicy.Proofs.Text.Encoding
import StreamPolicy.Proofs.Text.Integer

/-!
# What a token is written with

Letters and digits of ASCII and four marks: none of the characters that divide a link.
-/

namespace StreamPolicy.Link

open StreamPolicy.Text

/-- A character that tokens are written with. -/
def IsTokenChar (c : Char) : Prop :=
  c.isAlphanum = true ∨ c ∈ ['-', '_', '=', ':']

instance : DecidablePred IsTokenChar :=
  fun c => inferInstanceAs (Decidable (c.isAlphanum = true ∨ c ∈ ['-', '_', '=', ':']))

theorem isTokenChar_digit (n : Nat) : IsTokenChar (Base64.digit n) := by
  rcases Base64.isDigit_digit n with letter | hyphen | line
  · exact .inl letter
  · rw [hyphen]
    decide
  · rw [line]
    decide

theorem isTokenChar_of_mem_encode {bytes : List UInt8} {c : Char} (member : c ∈ Base64.encode bytes) :
    IsTokenChar c := by
  have fill : IsTokenChar '=' := by decide
  induction bytes using Base64.encode.induct with
  | case1 x y z rest ih =>
    simp only [Base64.encode, List.mem_cons] at member
    rcases member with rfl | rfl | rfl | rfl | later
    · exact isTokenChar_digit _
    · exact isTokenChar_digit _
    · exact isTokenChar_digit _
    · exact isTokenChar_digit _
    · exact ih later
  | case2 x y =>
    simp only [Base64.encode, List.mem_cons, List.not_mem_nil, or_false] at member
    rcases member with rfl | rfl | rfl | rfl
    · exact isTokenChar_digit _
    · exact isTokenChar_digit _
    · exact isTokenChar_digit _
    · exact fill
  | case3 x =>
    simp only [Base64.encode, List.mem_cons, List.not_mem_nil, or_false, or_self] at member
    rcases member with rfl | rfl | rfl
    · exact isTokenChar_digit _
    · exact isTokenChar_digit _
    · exact fill
  | case4 => cases member

theorem isTokenChar_of_mem_ofNat {n : Nat} {c : Char} (member : c ∈ (Text.ofNat n).toList) : IsTokenChar c := by
  rw [toList_ofNat] at member
  exact .inl (by simp [Char.isAlphanum, isDigit_of_mem_toDigits member])

/-- The value of the argument that carries a token is written with the characters of tokens. -/
theorem isTokenChar_of_mem_paramValue {path secret : String} {expiresAt : UInt64} {c : Char}
    (member : c ∈ (Token.make path secret expiresAt).paramValue.toList) : IsTokenChar c := by
  simp only [Token.paramValue, Token.make, signature, String.toList_append, String.toList_ofList,
    List.mem_append] at member
  rcases member with (hash | colon) | expiry
  · exact isTokenChar_of_mem_encode hash
  · have only : c = ':' := by simpa using colon
    rw [only]
    decide
  · exact isTokenChar_of_mem_ofNat expiry

end StreamPolicy.Link
