import StreamPolicy.Link.Signing
import StreamPolicy.Proofs.Text.Encoding

/-!
# Storage paths as part of a link

A storage path that is escaped for a link and then brought to its canonical form is the path again, but
for pairs of slashes, each of which has become one. What escaping writes is plain ASCII in which every
percent sign begins an escape, and no two paths are escaped alike.
-/

namespace StreamPolicy.Link

open StreamPolicy.Text

/-- The storage path that the signature of a file covers: each pair of slashes is one slash. -/
def coveredPath (path : String) : String :=
  String.ofList (replaceAll "//".toList "/".toList path.toList)

/-- Escaping a storage path does not change what its signature covers. -/
theorem canonicalPath_encode (path : String) :
    canonicalPath (String.ofList (Percent.encode path.toList)) = coveredPath path := by
  have marks : ∀ y ∈ "//".toList, Percent.IsMark y := List.all_iff_forall_prop.mp (by decide)
  have replaced : replaceAll "//".toList "/".toList (Percent.encode path.toList) =
      Percent.encode (replaceAll "//".toList "/".toList path.toList) :=
    Percent.replaceAll_encode marks (by decide) path.toList
  have escaped : (String.ofList (Percent.encode path.toList)).toList = Percent.encode path.toList :=
    String.toList_ofList
  rw [canonicalPath, escaped, replaced, Percent.decode_encode, coveredPath]

/-! ## Pairs of slashes -/

/-- One pass from left to right in which every pair of slashes becomes one slash. -/
def pairSlashes : List Char → List Char
  | '/' :: '/' :: s => '/' :: pairSlashes s
  | c :: s => c :: pairSlashes s
  | [] => []

theorem replaceAll_pair (s : List Char) : replaceAll "//".toList "/".toList s = pairSlashes s := by
  have pair : "//".toList ≠ [] := by decide
  induction s using pairSlashes.induct with
  | case1 s ih =>
    have front : after? "//".toList ('/' :: '/' :: s) = some s := rfl
    rw [replaceAll_cons pair, front, pairSlashes, ← ih]
    rfl
  | case2 c s other ih =>
    have front : after? "//".toList (c :: s) = none := by
      cases found : after? "//".toList (c :: s) with
      | none => rfl
      | some rest =>
        have paired : c :: s = '/' :: '/' :: rest := after?_eq_some_iff.mp found
        obtain ⟨rfl, rfl⟩ := List.cons_eq_cons.mp paired
        exact absurd rfl (other rest rfl)
    rw [replaceAll_cons pair, front, pairSlashes, ← ih]
    exact other
  | case3 =>
    rw [replaceAll_eq pair]
    rfl

/-! ## What escaping writes -/

/-- An upper-case hexadecimal digit. -/
def IsUpperHex (c : Char) : Prop :=
  c ∈ "0123456789ABCDEF".toList

instance : DecidablePred IsUpperHex :=
  fun c => inferInstanceAs (Decidable (c ∈ "0123456789ABCDEF".toList))

/-- Every percent sign begins an escape: two upper-case hexadecimal digits follow it. -/
def PercentsEscape (s : List Char) : Prop :=
  ∀ before after, s = before ++ '%' :: after →
    ∃ high low rest, after = high :: low :: rest ∧ IsUpperHex high ∧ IsUpperHex low

theorem PercentsEscape.append {s t : List Char} (front : PercentsEscape s) (back : PercentsEscape t) :
    PercentsEscape (s ++ t) := by
  intro before after divided
  rcases List.append_eq_append_iff.mp divided with ⟨middle, rfl, rfl⟩ | ⟨middle, rfl, split⟩
  · exact back middle after rfl
  · cases middle with
    | nil => exact back [] after split.symm
    | cons c middle =>
      obtain ⟨rfl, rfl⟩ := List.cons_eq_cons.mp split
      obtain ⟨high, low, rest, rfl, isHigh, isLow⟩ := front before middle rfl
      exact ⟨high, low, rest ++ t, rfl, isHigh, isLow⟩

theorem percentsEscape_flatMap {α : Type} {f : α → List Char} {as : List α} (each : ∀ a ∈ as, PercentsEscape (f a)) :
    PercentsEscape (as.flatMap f) := by
  induction as with
  | nil => intro before after divided; simp at divided
  | cons a as ih =>
    obtain ⟨first, others⟩ := List.forall_mem_cons.mp each
    exact first.append (ih others)

theorem isUpperHex_hexDigit {n : Nat} (digit : n < 16) : IsUpperHex (Percent.hexDigit n) := by
  revert n
  decide

theorem percentsEscape_escapeByte (b : UInt8) : PercentsEscape (Percent.escapeByte b) := by
  have small := b.toNat_lt
  have isHigh : IsUpperHex (Percent.hexDigit (b.toNat / 16)) := isUpperHex_hexDigit (by omega)
  have isLow : IsUpperHex (Percent.hexDigit (b.toNat % 16)) := isUpperHex_hexDigit (by omega)
  have digits {before after : List Char} {c d : Char} (highDigit : IsUpperHex c) (lowDigit : IsUpperHex d)
      (divided : [c, d] = before ++ '%' :: after) : False := by
    have percent : '%' ∈ [c, d] := by simp [divided]
    rcases List.mem_pair.mp percent with rfl | rfl
    · exact absurd highDigit (by decide)
    · exact absurd lowDigit (by decide)
  intro before after divided
  cases before with
  | nil =>
    obtain ⟨-, rfl⟩ := List.cons_eq_cons.mp divided
    exact ⟨_, _, [], rfl, isHigh, isLow⟩
  | cons c before => exact (digits isHigh isLow (List.cons_eq_cons.mp divided).2).elim

theorem percentsEscape_encode (s : List Char) : PercentsEscape (Percent.encode s) := by
  refine percentsEscape_flatMap fun c _ => ?_
  rw [Percent.encodeChar]
  split
  next kept =>
    intro before after divided
    have percent : '%' ∈ [c] := by simp [divided]
    exact absurd (List.mem_singleton.mp percent).symm (Percent.ascii_of_isKept kept).2
  next => exact percentsEscape_flatMap fun b _ => percentsEscape_escapeByte b

theorem ascii_of_mem_encode {c : Char} {s : List Char} (member : c ∈ Percent.encode s) : c.toNat < 0x80 := by
  rcases Percent.kept_or_percent_of_mem_encode member with kept | rfl
  · exact (Percent.ascii_of_isKept kept).1
  · decide

theorem encodeUri_injective : Function.Injective encodeUri := by
  intro path path' same
  have escaped : Percent.encode path.toList = Percent.encode path'.toList := by
    simpa [encodeUri] using congrArg String.toList same
  have decoded := congrArg Percent.decode escaped
  rw [Percent.decode_encode, Percent.decode_encode] at decoded
  exact String.toList_inj.mp decoded

/-- The canonical form of an escaped path is the path with its slashes paired. What escaping writes is
ASCII, its percent signs begin escapes, and it tells any two paths apart. -/
theorem canonicalPath_encodeUri :
    (∀ path, canonicalPath (encodeUri path) = String.ofList (pairSlashes path.toList)) ∧
      (∀ path, ∀ c ∈ (encodeUri path).toList, c.toNat < 0x80) ∧
      (∀ path, PercentsEscape (encodeUri path).toList) ∧
      Function.Injective encodeUri := by
  have written (path : String) : (encodeUri path).toList = Percent.encode path.toList := String.toList_ofList
  refine ⟨fun path => ?_, fun path c member => ?_, fun path => ?_, encodeUri_injective⟩
  · rw [encodeUri, canonicalPath_encode, coveredPath, replaceAll_pair]
  · rw [written] at member
    exact ascii_of_mem_encode member
  · rw [written]
    exact percentsEscape_encode path.toList

end StreamPolicy.Link
