import StreamPolicy.Proofs.Link.Coverage

/-!
# The first link in a text

A link stands wherever a scheme is followed by a host and a slash, and a text may hold several. The resource path
is that of the first one: from the slash behind its host, as far as there is no query and no fragment. It can be
cut at the slash that ends its first route mark, wherever that is.
-/

namespace StreamPolicy.Link

open StreamPolicy.Text

/-- A link behind some part of a text: a scheme, a host that is not empty and holds no slash, and a tail that
starts with one. -/
structure LinkIn (s before scheme host tail : List Char) : Prop where
  known : scheme ∈ schemes
  inhabited : host ≠ []
  whole : '/' ∉ host
  rooted : tail.head? = some '/'
  text : s = before ++ (scheme ++ (host ++ tail))

/-- A link that no other one starts before. -/
structure FirstLink (s before scheme host tail : List Char) : Prop extends LinkIn s before scheme host tail where
  first : ∀ before' scheme' host' tail', LinkIn s before' scheme' host' tail' → before.length ≤ before'.length

/-- The longest piece at the front of a tail that holds neither mark behind which a path ends. -/
structure LongestPlain (tail piece : List Char) : Prop where
  front : piece <+: tail
  question : '?' ∉ piece
  number : '#' ∉ piece
  longest : ∀ piece', piece' <+: tail → '?' ∉ piece' → '#' ∉ piece' → piece'.length ≤ piece.length

/-- The rest of a text from one of its bytes on, where a character starts at that byte or the text ends there. -/
structure SlicedAt (s : String) (start : String.Pos.Raw) (rest : String) : Prop where
  valid : start.IsValid s
  slice : ∃ front, s = front ++ rest ∧ front.rawEndPos = start

/-- The byte at which the storage path of a resource path starts: the last one of its first route mark. -/
def storageStart (before : String) : String.Pos.Raw :=
  ⟨before.utf8ByteSize + storageRoute.utf8ByteSize - 1⟩

/-! ## Where links start -/

theorem tailHere?_eq_some_iff_linkIn {s tail : List Char} :
    tailHere? s = some tail ↔ ∃ scheme host, LinkIn s [] scheme host tail := by
  rw [tailHere?_eq_some_iff]
  constructor
  · rintro ⟨scheme, known, host, rest, inhabited, whole, rfl, split⟩
    exact ⟨scheme, host, known, inhabited, whole, rfl, split⟩
  · rintro ⟨scheme, host, known, inhabited, whole, rooted, split⟩
    obtain ⟨rest, rfl⟩ := List.head?_eq_some_iff.mp rooted
    exact ⟨scheme, known, host, rest, inhabited, whole, rfl, split⟩

theorem not_linkIn_nil {before scheme host tail : List Char} : ¬ LinkIn [] before scheme host tail := by
  intro link
  have empty := link.text.symm
  simp only [List.append_eq_nil_iff] at empty
  exact link.inhabited empty.2.2.1

theorem linkIn_cons_cons_iff {c d : Char} {s before scheme host tail : List Char} :
    LinkIn (c :: s) (d :: before) scheme host tail ↔ d = c ∧ LinkIn s before scheme host tail := by
  constructor
  · intro link
    obtain ⟨rfl, text⟩ := List.cons_eq_cons.mp link.text
    exact ⟨rfl, link.known, link.inhabited, link.whole, link.rooted, text⟩
  · rintro ⟨rfl, link⟩
    exact ⟨link.known, link.inhabited, link.whole, link.rooted, by rw [link.text, List.cons_append]⟩

theorem FirstLink.of_linkIn_nil {s scheme host tail : List Char} (link : LinkIn s [] scheme host tail) :
    FirstLink s [] scheme host tail :=
  ⟨link, fun _ _ _ _ _ => Nat.zero_le _⟩

section Later

variable {c : Char} {s before scheme host tail : List Char} (none : tailHere? (c :: s) = none)

include none in
/-- Where no link starts at the front every link is one of the rest. -/
theorem LinkIn.later (link : LinkIn (c :: s) before scheme host tail) :
    ∃ later, before = c :: later ∧ LinkIn s later scheme host tail := by
  cases before with
  | nil =>
    rw [tailHere?_eq_some_iff_linkIn.mpr ⟨scheme, host, link⟩] at none
    cases none
  | cons d later =>
    obtain ⟨rfl, link'⟩ := linkIn_cons_cons_iff.mp link
    exact ⟨later, rfl, link'⟩

include none in
theorem firstLink_cons_iff :
    FirstLink (c :: s) before scheme host tail ↔ ∃ later, before = c :: later ∧ FirstLink s later scheme host tail := by
  constructor
  · intro link
    obtain ⟨later, rfl, link'⟩ := link.toLinkIn.later none
    refine ⟨later, rfl, link', fun before' scheme' host' tail' other => ?_⟩
    exact Nat.le_of_succ_le_succ (link.first _ _ _ _ (linkIn_cons_cons_iff.mpr ⟨rfl, other⟩))
  · rintro ⟨later, rfl, link⟩
    refine ⟨linkIn_cons_cons_iff.mpr ⟨rfl, link.toLinkIn⟩, fun before' scheme' host' tail' other => ?_⟩
    obtain ⟨later', rfl, other'⟩ := other.later none
    exact Nat.succ_le_succ (link.first _ _ _ _ other')

end Later

/-- The tail that is found is that of the first link. -/
theorem tail?_eq_some_iff_firstLink {s tail : List Char} :
    tail? s = some tail ↔ ∃ before scheme host, FirstLink s before scheme host tail := by
  induction s with
  | nil => exact iff_of_false nofun fun ⟨_, _, _, link⟩ => not_linkIn_nil link.toLinkIn
  | cons c s ih =>
    rw [tail?]
    cases here : tailHere? (c :: s) with
    | some tail' =>
      obtain ⟨scheme', host', front⟩ := tailHere?_eq_some_iff_linkIn.mp here
      constructor
      · rintro ⟨⟩
        exact ⟨[], scheme', host', .of_linkIn_nil front⟩
      · rintro ⟨before, scheme, host, link⟩
        obtain rfl : before = [] := List.eq_nil_of_length_eq_zero (Nat.le_zero.mp (link.first _ _ _ _ front))
        exact here.symm.trans (tailHere?_eq_some_iff_linkIn.mpr ⟨scheme, host, link.toLinkIn⟩)
    | none =>
      dsimp only
      rw [ih]
      constructor
      · rintro ⟨later, scheme, host, link⟩
        exact ⟨c :: later, scheme, host, (firstLink_cons_iff here).mpr ⟨later, rfl, link⟩⟩
      · rintro ⟨before, scheme, host, link⟩
        obtain ⟨later, rfl, link'⟩ := (firstLink_cons_iff here).mp link
        exact ⟨later, scheme, host, link'⟩

/-- A text that has a link has a first one. -/
theorem isSome_tail?_iff {s : List Char} :
    (tail? s).isSome ↔ ∃ before scheme host tail, LinkIn s before scheme host tail := by
  constructor
  · intro found
    obtain ⟨tail, found⟩ := Option.isSome_iff_exists.mp found
    obtain ⟨before, scheme, host, link⟩ := tail?_eq_some_iff_firstLink.mp found
    exact ⟨before, scheme, host, tail, link.toLinkIn⟩
  · rintro ⟨before, scheme, host, tail, link⟩
    induction s generalizing before with
    | nil => exact absurd link not_linkIn_nil
    | cons c s ih =>
      rw [tail?]
      cases here : tailHere? (c :: s) with
      | some tail' => rfl
      | none =>
        obtain ⟨later, -, link'⟩ := link.later here
        exact ih later link'

/-! ## How far the path goes -/

theorem longestPlain_pathOf (tail : List Char) : LongestPlain tail (pathOf tail) where
  front := List.takeWhile_prefix _
  question := (not_mem_pathOf tail).1
  number := (not_mem_pathOf tail).2
  longest := by
    rintro piece ⟨rest, rfl⟩ question number
    rw [pathOf_append_of_plain question number, List.length_append]
    exact Nat.le_add_right _ _

theorem pathOf_eq_iff_longestPlain {tail piece : List Char} : pathOf tail = piece ↔ LongestPlain tail piece := by
  constructor
  · rintro rfl
    exact longestPlain_pathOf tail
  · intro plain
    have path := longestPlain_pathOf tail
    have shorter := plain.longest _ path.front path.question path.number
    have longer := path.longest _ plain.front plain.question plain.number
    exact (List.prefix_of_prefix_length_le path.front plain.front shorter).eq_of_length_le longer

theorem head?_pathOf {tail : List Char} (rooted : tail.head? = some '/') : (pathOf tail).head? = some '/' := by
  obtain ⟨rest, rfl⟩ := List.head?_eq_some_iff.mp rooted
  rfl

/-! ## Cutting a path -/

theorem slicedAt_rawEndPos (front rest : String) : SlicedAt (front ++ rest) front.rawEndPos rest :=
  ⟨String.Pos.Raw.isValid_iff_exists_append.mpr ⟨front, rest, rfl, rfl⟩, front, rfl, rfl⟩

/-- A path can be cut at the slash that ends its first route mark. -/
theorem slicedAt_storageStart {path before rest : String}
    (divided : DividedAt storageRoute.toList path.toList before.toList rest.toList) :
    SlicedAt path (storageStart before) ("/" ++ rest) := by
  have whole : path = (before ++ "/d") ++ ("/" ++ rest) := by
    rw [← String.toList_inj, divided.whole]
    simp [storageRoute]
  have start : storageStart before = (before ++ "/d").rawEndPos := by
    have route : storageRoute.utf8ByteSize = "/d".utf8ByteSize + 1 := by decide
    rw [String.Pos.Raw.ext_iff, String.byteIdx_rawEndPos, String.utf8ByteSize_append, storageStart, route]
    rfl
  rw [start, whole]
  exact slicedAt_rawEndPos _ _

theorem toList_storagePath? {path before rest : String}
    (divided : DividedAt storageRoute.toList path.toList before.toList rest.toList) :
    storagePath? path.toList = some ("/" ++ rest).toList := by
  rw [storagePath?, cut?_eq_some_iff.mpr divided, Option.map_some, String.toList_append]
  rfl

/-! ## Reading the path -/

theorem urlPath?_eq_some_iff_firstLink {url path : String} :
    urlPath? url = some path ↔
      ∃ before scheme host tail, FirstLink url.toList before scheme host tail ∧ LongestPlain tail path.toList := by
  rw [urlPath?_eq_some_iff]
  constructor
  · rintro ⟨tail, found, path⟩
    obtain ⟨before, scheme, host, link⟩ := tail?_eq_some_iff_firstLink.mp found
    exact ⟨before, scheme, host, tail, link, pathOf_eq_iff_longestPlain.mp path⟩
  · rintro ⟨before, scheme, host, tail, link, plain⟩
    exact ⟨tail, tail?_eq_some_iff_firstLink.mpr ⟨before, scheme, host, link⟩, pathOf_eq_iff_longestPlain.mpr plain⟩

theorem isSome_urlPath?_iff {url : String} :
    (urlPath? url).isSome ↔ ∃ before scheme host tail, LinkIn url.toList before scheme host tail := by
  rw [← isSome_tail?_iff, urlPath?, resource?_eq, Option.isSome_map, Option.isSome_map]

theorem head?_of_urlPath? {url path : String} (shown : urlPath? url = some path) : path.toList.head? = some '/' := by
  obtain ⟨before, scheme, host, tail, link, plain⟩ := urlPath?_eq_some_iff_firstLink.mp shown
  rw [← pathOf_eq_iff_longestPlain.mpr plain]
  exact head?_pathOf link.rooted

/-- A text shows a resource path exactly when a link starts somewhere in it. The path is then the longest plain
piece behind the host of the first link. It starts with a slash, and it can be cut at its first route mark. -/
theorem urlPath?_readsFirstLink (url : String) :
    ((urlPath? url).isSome ↔ ∃ before scheme host tail, LinkIn url.toList before scheme host tail) ∧
      (∀ path, urlPath? url = some path ↔
        ∃ before scheme host tail, FirstLink url.toList before scheme host tail ∧ LongestPlain tail path.toList) ∧
      ∀ path, urlPath? url = some path → path.toList.head? = some '/' ∧
        ∀ before rest : String, DividedAt storageRoute.toList path.toList before.toList rest.toList →
          SlicedAt path (storageStart before) ("/" ++ rest) ∧ storagePath? path.toList = some ("/" ++ rest).toList := by
  refine ⟨isSome_urlPath?_iff, fun path => urlPath?_eq_some_iff_firstLink, fun path shown => ⟨?_, ?_⟩⟩
  · exact head?_of_urlPath? shown
  · intro before rest divided
    exact ⟨slicedAt_storageStart divided, toList_storagePath? divided⟩

/-- A start that fails for want of a host, a question mark in the host, and a letter of two bytes before the mark. -/
theorem urlPath?_readsFirstLink_failedStart :
    urlPath? "http:///https://h?x/é/d/a#f" = some "/é/d/a" ∧
      DividedAt storageRoute.toList "/é/d/a".toList "/é".toList "a".toList ∧
      SlicedAt "/é/d/a" (storageStart "/é") ("/" ++ "a") := by
  have shown : urlPath? "http:///https://h?x/é/d/a#f" = some "/é/d/a" := by decide
  have divided : DividedAt storageRoute.toList "/é/d/a".toList "/é".toList "a".toList := cut?_eq_some_iff.mp (by decide)
  obtain ⟨-, -, cuts⟩ := urlPath?_readsFirstLink "http:///https://h?x/é/d/a#f"
  exact ⟨shown, divided, ((cuts _ shown).2 "/é" "a" divided).1⟩

end StreamPolicy.Link
