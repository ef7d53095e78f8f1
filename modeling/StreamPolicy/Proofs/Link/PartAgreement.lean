import StreamPolicy.Proofs.Link.FilePart
import StreamPolicy.Proofs.Link.FirstLink
import StreamPolicy.Proofs.Link.Separators

/-!
# The file path and the resource path of a link

The file path of a link is looked for in the whole text, and what a signature covers only behind the host. Both
readings meet unless a route mark stands before the resource path: in front of the link, or as its host.
-/

namespace StreamPolicy.Link

open StreamPolicy.Text

/-- A link on one line without a query, a fragment and the other marker. -/
structure IsPlain (url : String) : Prop where
  question : '?' ∉ url.toList
  number : '#' ∉ url.toList
  newline : '\n' ∉ url.toList
  single : ¬ "/False/".toList <:+: url.toList

/-- The file path of a link is what stands behind the first route mark of its resource path, which is the path
that a signature covers without its slash. -/
structure PartsAgree (url path : String) : Prop where
  found : (filePathPart? url).isSome ↔ storageRoute.toList <:+: path.toList
  same : ∀ before rest : String, DividedAt storageRoute.toList path.toList before.toList rest.toList →
    filePathPart? url = some rest
  signed : ∀ part, filePathPart? url = some part → signedPath? url = some (canonicalPath ("/" ++ part))

/-! ## Storage paths of longer texts -/

theorem storagePath?_append {s p : List Char} (storage : storagePath? s = some p) (more : List Char) :
    storagePath? (s ++ more) = some (p ++ more) := by
  obtain ⟨⟨before, rest⟩, cut, rfl⟩ := Option.map_eq_some_iff.mp storage
  rw [storagePath?, cut?_append cut, Option.map_some, List.cons_append]

/-- A text without a route mark is passed over, together with a character that is in none. -/
theorem storagePath?_append_cons {x : Char} {s : List Char} (absent : x ∉ storageRoute.toList)
    (clear : ¬ storageRoute.toList <:+: s) (more : List Char) : storagePath? (s ++ x :: more) = storagePath? more := by
  rw [storagePath?, cut?_append_cons_of_not_infix absent clear, Option.map_map, storagePath?]
  rfl

theorem storagePath?_append_of_not_mem {s : List Char} (slashless : '/' ∉ s) (more : List Char) :
    storagePath? (s ++ more) = storagePath? more := by
  have route : storageRoute.toList = '/' :: ['d', '/'] := by decide
  rw [storagePath?, route, cut?_append_of_not_mem slashless, Option.map_map, storagePath?, route]
  rfl

/-- A storage path is shorter than the text that it is found in. -/
theorem length_lt_of_storagePath? {s p : List Char} (storage : storagePath? s = some p) : p.length < s.length := by
  obtain ⟨⟨before, rest⟩, cut, rfl⟩ := Option.map_eq_some_iff.mp storage
  have route : storageRoute.toList.length = 3 := by decide
  rw [eq_of_cut? cut, List.length_append, List.length_append, List.length_cons, route]
  omega

theorem isSome_storagePath?_iff {s : List Char} : (storagePath? s).isSome ↔ storageRoute.toList <:+: s := by
  rw [storagePath?, Option.isSome_map]
  exact occurs_iff_infix

/-- A scheme begins with a letter and ends with a colon and two slashes, and no mark stands between. -/
theorem exists_of_mem_schemes {scheme : List Char} (known : scheme ∈ schemes) :
    ∃ letters, scheme = 'h' :: (letters ++ ':' :: ['/', '/']) ∧ ¬ storageRoute.toList <:+: letters := by
  simp only [schemes, List.mem_cons, List.not_mem_nil, or_false] at known
  rcases known with rfl | rfl
  · exact ⟨"ttps".toList, by decide, by decide⟩
  · exact ⟨"ttp".toList, by decide, by decide⟩

/-- Behind the two slashes a host that is a mark opens the storage path, and any other is passed over. -/
theorem storagePath?_slashes {host : List Char} (whole : '/' ∉ host) (rest : List Char) :
    storagePath? ('/' :: '/' :: (host ++ '/' :: rest)) =
      if host = ['d'] then some ('/' :: rest) else storagePath? ('/' :: rest) := by
  have route : storageRoute.toList = '/' :: (['d'] ++ ['/']) := by decide
  have first : after? storageRoute.toList ('/' :: '/' :: (host ++ '/' :: rest)) = none := by
    rw [route]
    rfl
  rw [storagePath?_cons, first]
  dsimp only
  rw [storagePath?_cons, route, after?_segment (by decide) whole]
  by_cases mark : host = ['d']
  · rw [if_pos mark, if_pos mark]
  · rw [if_neg mark, if_neg mark]
    exact storagePath?_append_of_not_mem whole _

section Reading

variable {s before scheme host tail : List Char} (link : LinkIn s before scheme host tail)

include link in
theorem storagePath?_of_linkIn (clear : ¬ storageRoute.toList <:+: before) :
    storagePath? s = if host = ['d'] then some tail else storagePath? tail := by
  obtain ⟨rest, rfl⟩ := List.head?_eq_some_iff.mp link.rooted
  obtain ⟨letters, rfl, clear'⟩ := exists_of_mem_schemes link.known
  have text : s = before ++ 'h' :: (letters ++ ':' :: ('/' :: '/' :: (host ++ '/' :: rest))) := by
    simp [link.text]
  rw [text, storagePath?_append_cons (by decide) clear, storagePath?_append_cons (by decide) clear',
    storagePath?_slashes link.whole]

include link in
/-- The storage path of the whole text is that of the tail exactly when no mark stands before the tail: any other
one leaves too much behind it. -/
theorem storagePath?_eq_iff :
    storagePath? s = storagePath? tail ↔ ¬ storageRoute.toList <:+: before ∧ host ≠ ['d'] := by
  by_cases clear : storageRoute.toList <:+: before
  · refine iff_of_false (fun same => ?_) fun both => both.1 clear
    obtain ⟨p, storage⟩ := Option.isSome_iff_exists.mp (isSome_storagePath?_iff.mpr clear)
    rw [link.text, storagePath?_append storage] at same
    have shorter := length_lt_of_storagePath? same.symm
    simp only [List.length_append] at shorter
    omega
  · rw [storagePath?_of_linkIn link clear]
    by_cases mark : host = ['d']
    · rw [if_pos mark]
      exact iff_of_false (fun same => (length_lt_of_storagePath? same.symm).false) fun both => both.2 mark
    · rw [if_neg mark]
      exact iff_of_true rfl ⟨clear, mark⟩

end Reading

/-! ## File paths -/

/-- Without the other marker and on one line the file path is the storage path of the text without its slash. -/
theorem filePart?_eq_storagePath? {s : List Char} (single : ¬ "/False/".toList <:+: s) (newline : '\n' ∉ s) :
    (filePart? s).map ('/' :: ·) = storagePath? s := by
  induction s with
  | nil => rfl
  | cons c s ih =>
    have other : after? "/False/".toList (c :: s) = none := by
      rw [← Option.not_isSome_iff_eq_none, after?_isSome_iff]
      exact fun front => single front.isInfix
    have single' : ¬ "/False/".toList <:+: s := fun later => single (later.trans (List.suffix_cons c s).isInfix)
    have newline' : '\n' ∉ s := fun later => newline (List.mem_cons_of_mem c later)
    rw [filePart?, afterMarker?, other, storagePath?_cons, ← ih single' newline']
    have route : storageRoute.toList = "/d/".toList := rfl
    rw [route]
    cases mark : after? "/d/".toList (c :: s) with
    | none => rfl
    | some rest =>
      have suffix : rest <:+ c :: s := ⟨_, (after?_eq_some_iff.mp mark).symm⟩
      dsimp only
      rw [Option.map_some, takeWhile_ne_of_not_mem fun member => newline (suffix.subset member)]

theorem filePathPart?_eq_some_iff {url part : String} :
    filePathPart? url = some part ↔ filePart? url.toList = some part.toList := by
  rw [filePathPart?, Option.map_eq_some_iff]
  constructor
  · rintro ⟨p, found, rfl⟩
    rw [found, String.toList_ofList]
  · exact fun found => ⟨_, found, String.ofList_toList⟩

theorem signedPath?_of_urlPath? {url path : String} (shown : urlPath? url = some path) :
    signedPath? url = (storagePath? path.toList).map fun p => canonicalPath (String.ofList p) := by
  obtain ⟨resource, found, rfl⟩ := Option.map_eq_some_iff.mp shown
  rw [signedPath?, found, Option.bind_some, String.toList_ofList]

/-! ## Agreement -/

theorem partsAgree_iff {url path : String} (shown : urlPath? url = some path) :
    PartsAgree url path ↔ (filePart? url.toList).map ('/' :: ·) = storagePath? path.toList := by
  have found : (filePathPart? url).isSome = (filePart? url.toList).isSome := Option.isSome_map
  constructor
  · intro agree
    cases cut : cut? storageRoute.toList path.toList with
    | none =>
      have absent := mt agree.found.mp (cut?_eq_none_iff.mp cut)
      rw [found, Option.not_isSome_iff_eq_none] at absent
      rw [absent, storagePath?, cut]
      rfl
    | some parts =>
      obtain ⟨before, rest⟩ := parts
      have divided : DividedAt storageRoute.toList path.toList (String.ofList before).toList (String.ofList rest).toList := by
        rw [String.toList_ofList, String.toList_ofList]
        exact cut?_eq_some_iff.mp cut
      rw [filePathPart?_eq_some_iff.mp (agree.same _ _ divided), toList_storagePath? divided, String.toList_append]
      rfl
  · intro same
    refine ⟨?_, fun before rest divided => ?_, fun part read => ?_⟩
    · rw [found, ← isSome_storagePath?_iff, ← same, Option.isSome_map]
    · rw [toList_storagePath? divided, String.toList_append] at same
      obtain ⟨part, read, behind⟩ := Option.map_eq_some_iff.mp same
      rw [filePathPart?_eq_some_iff, read]
      exact congrArg some (List.cons_eq_cons.mp behind).2
    · have behind : String.ofList ('/' :: part.toList) = "/" ++ part := by
        rw [← String.toList_inj]
        simp
      rw [filePathPart?_eq_some_iff.mp read, Option.map_some] at same
      rw [signedPath?_of_urlPath? shown, ← same, Option.map_some, behind]

/-- The file path of a plain link is what its signature covers exactly when no route mark stands in front of the
first link and the host of that link is no mark either. -/
theorem filePathPart?_agrees_iff {url path : String} (shown : urlPath? url = some path) (plain : IsPlain url) :
    ∃ before scheme host, FirstLink url.toList before scheme host path.toList ∧
      (PartsAgree url path ↔ ¬ storageRoute.toList <:+: before ∧ host ≠ "d".toList) := by
  obtain ⟨before, scheme, host, tail, link, longest⟩ := urlPath?_eq_some_iff_firstLink.mp shown
  have within : tail <:+ url.toList := ⟨before ++ (scheme ++ host), by simp [link.text]⟩
  have open_ : '?' ∉ tail ∧ '#' ∉ tail :=
    ⟨fun member => plain.question (within.subset member), fun member => plain.number (within.subset member)⟩
  have whole : path.toList = tail :=
    (pathOf_eq_iff_longestPlain.mpr longest).symm.trans (pathOf_eq_self_iff.mpr open_)
  rw [whole]
  refine ⟨before, scheme, host, link, ?_⟩
  rw [partsAgree_iff shown, filePart?_eq_storagePath? plain.single plain.newline, whole,
    storagePath?_eq_iff link.toLinkIn]
  rfl

theorem filePathPart?_agrees_iff_twoMarks :
    urlPath? "see http://h:5244/a/d/b//d/c" = some "/a/d/b//d/c" ∧ IsPlain "see http://h:5244/a/d/b//d/c" ∧
      ∃ before scheme host, FirstLink "see http://h:5244/a/d/b//d/c".toList before scheme host "/a/d/b//d/c".toList ∧
        (PartsAgree "see http://h:5244/a/d/b//d/c" "/a/d/b//d/c" ↔
          ¬ storageRoute.toList <:+: before ∧ host ≠ "d".toList) := by
  have shown : urlPath? "see http://h:5244/a/d/b//d/c" = some "/a/d/b//d/c" := by decide
  have plain : IsPlain "see http://h:5244/a/d/b//d/c" := ⟨by decide, by decide, by decide, by decide⟩
  exact ⟨shown, plain, filePathPart?_agrees_iff shown plain⟩

/-- A host that is a mark is taken for the route: a link that leads to no file has a file path, and the file path
of a storage link is a longer one than its signature covers. -/
theorem not_partsAgree_host :
    (urlPath? "http://d/p/x" = some "/p/x" ∧ IsPlain "http://d/p/x" ∧ filePathPart? "http://d/p/x" = some "p/x" ∧
        ¬ PartsAgree "http://d/p/x" "/p/x") ∧
      urlPath? "http://d/d/x" = some "/d/x" ∧ IsPlain "http://d/d/x" ∧ filePathPart? "http://d/d/x" = some "d/x" ∧
        ¬ PartsAgree "http://d/d/x" "/d/x" := by
  have plain : IsPlain "http://d/p/x" := ⟨by decide, by decide, by decide, by decide⟩
  have plain' : IsPlain "http://d/d/x" := ⟨by decide, by decide, by decide, by decide⟩
  refine ⟨⟨by decide, plain, by decide, fun agree => ?_⟩, by decide, plain', by decide, fun agree => ?_⟩
  · exact absurd (agree.found.mp (by decide)) (by decide)
  · have divided : DividedAt storageRoute.toList "/d/x".toList "".toList "x".toList := cut?_eq_some_iff.mp (by decide)
    exact absurd (agree.same "" "x" divided) (by decide)

end StreamPolicy.Link
