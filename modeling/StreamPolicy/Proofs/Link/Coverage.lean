import StreamPolicy.Proofs.Link.Signing

/-!
# Which storage links are signed

A link whose path has a route mark is signed over what stands behind the first one, unless the link
holds the key of a signature. The key counts wherever it stands: in the host, in the name of a file,
in another argument or in the fragment.
-/

namespace StreamPolicy.Link

open StreamPolicy.Text

/-- A path divided at its first route mark. -/
structure DividedAtRoute (path before rest : List Char) : Prop where
  whole : path = before ++ storageRoute.toList ++ rest
  first : ∀ before' rest', path = before' ++ storageRoute.toList ++ rest' → before.length ≤ before'.length

/-- A query has an argument of a name, with a value or without one. -/
def HasName (query : List Char) (name : String) : Prop :=
  ∃ arg ∈ query.splitOn '&', arg.takeWhile (· ≠ '=') = name.toList

instance (query : List Char) (name : String) : Decidable (HasName query name) :=
  inferInstanceAs (Decidable (∃ arg ∈ query.splitOn '&', arg.takeWhile (· ≠ '=') = name.toList))

/-- A link ends with the argument that carries the token of a path. -/
def EndsWithToken (link path secret : String) (expiresAt : UInt64) : Prop :=
  (signParam ++ "=" ++ (Token.make path secret expiresAt).paramValue).toList <:+ link.toList

theorem exists_dividedAtRoute {path : List Char} (marked : storageRoute.toList <:+: path) :
    ∃ before rest, DividedAtRoute path before rest ∧ storagePath? path = some ('/' :: rest) := by
  cases cut : cut? storageRoute.toList path with
  | none => exact absurd marked (cut?_eq_none_iff.mp cut)
  | some parts =>
    obtain ⟨before, rest⟩ := parts
    have divided := cut?_eq_some_iff.mp cut
    refine ⟨before, rest, ⟨divided.whole, divided.first⟩, ?_⟩
    rw [storagePath?, cut, Option.map_some]

theorem urlPath?_eq_some_iff {url path : String} :
    urlPath? url = some path ↔ ∃ tail, tail? url.toList = some tail ∧ pathOf tail = path.toList := by
  rw [urlPath?, resource?_eq, Option.map_map, Option.map_eq_some_iff]
  refine exists_congr fun tail => and_congr_right fun _ => ?_
  rw [Function.comp_apply, ← String.toList_inj, String.toList_ofList]

theorem endsWithToken_signAt {url secret : String} {expiresAt : UInt64} {tail path : List Char}
    (unsigned : ¬ (signParam ++ "=").toList <:+: url.toList) (found : tail? url.toList = some tail)
    (storage : storagePath? (pathOf tail) = some path) :
    EndsWithToken (signAt url secret expiresAt) (canonicalPath (String.ofList path)) secret expiresAt := by
  refine ⟨url.toList ++ [argMark url], ?_⟩
  rw [toList_signAt unsigned found storage, signArg]
  simp

/-- A link to storage becomes another one, which ends with the token of its path from the end of the
first route mark on, exactly when it does not hold the key of a signature. -/
theorem endsWithToken_signAt_iff {url path : String} (shown : urlPath? url = some path)
    (marked : storageRoute.toList <:+: path.toList) (secret : String) (expiresAt : UInt64) :
    ∃ before rest, DividedAtRoute path.toList before rest ∧
      (signAt url secret expiresAt ≠ url ∧
          EndsWithToken (signAt url secret expiresAt) (canonicalPath (String.ofList ('/' :: rest))) secret expiresAt ↔
        ¬ (signParam ++ "=").toList <:+: url.toList) := by
  obtain ⟨tail, found, same⟩ := urlPath?_eq_some_iff.mp shown
  obtain ⟨before, rest, divided, storage⟩ := exists_dividedAtRoute marked
  rw [← same] at storage
  refine ⟨before, rest, divided, fun changed => (signAt_ne_iff.mp changed.1).1, fun unsigned => ⟨?_, ?_⟩⟩
  · exact signAt_ne_iff.mpr ⟨unsigned, tail, _, found, storage⟩
  · exact endsWithToken_signAt unsigned found storage

theorem endsWithToken_signAt_iff_twoMarks :
    urlPath? "http://h/p/d/a/d/b?design" = some "/p/d/a/d/b" ∧ storageRoute.toList <:+: "/p/d/a/d/b".toList ∧
      ∃ before rest, DividedAtRoute "/p/d/a/d/b".toList before rest ∧
        (signAt "http://h/p/d/a/d/b?design" "k" 7 ≠ "http://h/p/d/a/d/b?design" ∧
            EndsWithToken (signAt "http://h/p/d/a/d/b?design" "k" 7)
              (canonicalPath (String.ofList ('/' :: rest))) "k" 7 ↔
          ¬ (signParam ++ "=").toList <:+: "http://h/p/d/a/d/b?design".toList) :=
  ⟨by decide, by decide, endsWithToken_signAt_iff (by decide) (by decide) "k" 7⟩

/-- A link to storage without a signature in its query that signing leaves as it is. -/
structure LeftUnsigned (url : String) : Prop where
  storage : ∃ path, urlPath? url = some path ∧ storageRoute.toList <:+: path.toList
  unsigned : ∃ tail, tail? url.toList = some tail ∧ ¬ HasName (query tail) signParam
  same : ∀ secret expiresAt, signAt url secret expiresAt = url

theorem signAt_of_held {url : String} (held : (signParam ++ "=").toList <:+: url.toList) (secret : String)
    (expiresAt : UInt64) : signAt url secret expiresAt = url := by
  rw [signAt, if_pos (contains_iff.mpr held)]

/-- The key of a signature is in the host, in the name of a file, at the end of another name, in the
value of another argument or in the fragment. -/
theorem not_endsWithToken_held :
    LeftUnsigned "http://sign=h/d/a" ∧ LeftUnsigned "http://h/d/sign=a" ∧ LeftUnsigned "http://h/d/a?design=1" ∧
      LeftUnsigned "http://h/d/a?x=sign=1" ∧ LeftUnsigned "http://h/d/a#sign=1" := by
  refine ⟨?_, ?_, ?_, ?_, ?_⟩
  · exact ⟨⟨"/d/a", by decide, by decide⟩, ⟨"/d/a".toList, by decide, by decide⟩, signAt_of_held (by decide)⟩
  · exact ⟨⟨"/d/sign=a", by decide, by decide⟩, ⟨"/d/sign=a".toList, by decide, by decide⟩,
      signAt_of_held (by decide)⟩
  · exact ⟨⟨"/d/a", by decide, by decide⟩, ⟨"/d/a?design=1".toList, by decide, by decide⟩,
      signAt_of_held (by decide)⟩
  · exact ⟨⟨"/d/a", by decide, by decide⟩, ⟨"/d/a?x=sign=1".toList, by decide, by decide⟩,
      signAt_of_held (by decide)⟩
  · exact ⟨⟨"/d/a", by decide, by decide⟩, ⟨"/d/a#sign=1".toList, by decide, by decide⟩,
      signAt_of_held (by decide)⟩

end StreamPolicy.Link
