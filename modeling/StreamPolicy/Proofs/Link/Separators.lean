import StreamPolicy.Proofs.Link.Coverage
import StreamPolicy.Proofs.Link.Escaping

/-!
# Repeated separators of a storage path

Bringing a path to its canonical form is one pass from left to right, which makes one slash of each pair
and never looks at what it has written. A run of two slashes becomes one, but a longer run keeps a pair.
So the canonical form forgets how long the runs of a path are exactly when none is longer than two.
-/

namespace StreamPolicy.Link

open StreamPolicy.Text

/-- Two texts that differ only in how many slashes stand in each run of slashes. -/
inductive SameButRuns : List Char → List Char → Prop
  | nil : SameButRuns [] []
  | char {c : Char} {s t : List Char} (other : c ≠ '/') (rest : SameButRuns s t) : SameButRuns (c :: s) (c :: t)
  | run {s t : List Char} (m n : Nat) (rest : SameButRuns s t) :
    SameButRuns (List.replicate (m + 1) '/' ++ s) (List.replicate (n + 1) '/' ++ t)

/-- No two slashes stand side by side. -/
def Collapsed (s : List Char) : Prop :=
  ¬ ['/', '/'] <:+: s

/-- No run of slashes is longer than two. -/
def ShortRuns (s : List Char) : Prop :=
  ¬ ['/', '/', '/'] <:+: s

instance : DecidablePred Collapsed :=
  fun s => inferInstanceAs (Decidable (¬ ['/', '/'] <:+: s))

instance : DecidablePred ShortRuns :=
  fun s => inferInstanceAs (Decidable (¬ ['/', '/', '/'] <:+: s))

/-- The text with one slash for every run: a slash in front of another one is left out. -/
def collapse : List Char → List Char
  | [] => []
  | c :: s => if c = '/' ∧ s.head? = some '/' then collapse s else c :: collapse s

/-- What the canonical forms of two raw paths are to be: the same, and free of repeated separators. -/
structure CollapseAlike (raw raw' : String) : Prop where
  same : canonicalPath raw = canonicalPath raw'
  collapsed : Collapsed (canonicalPath raw).toList

/-- Links that carry no signature yet get the same one: signing leaves both as they are, or puts one token
behind both. -/
def SignedAlike (url url' : String) : Prop :=
  ∀ secret expiresAt, ¬ contains url (signParam ++ "=") = true → ¬ contains url' (signParam ++ "=") = true →
    (signAt url secret expiresAt = url ∧ signAt url' secret expiresAt = url') ∨
      ∃ token : Token, signAt url secret expiresAt = url ++ separator url ++ signParam ++ "=" ++ token.paramValue ∧
        signAt url' secret expiresAt = url' ++ separator url' ++ signParam ++ "=" ++ token.paramValue

/-! ## One slash for every run -/

theorem collapse_pair (s : List Char) : collapse ('/' :: '/' :: s) = collapse ('/' :: s) := by
  rw [collapse, if_pos ⟨rfl, rfl⟩]

theorem collapse_cons {c : Char} {s : List Char} (apart : ¬ (c = '/' ∧ s.head? = some '/')) :
    collapse (c :: s) = c :: collapse s := by
  rw [collapse, if_neg apart]

theorem head?_collapse (s : List Char) : (collapse s).head? = s.head? := by
  induction s with
  | nil => rfl
  | cons c s ih =>
    rw [collapse]
    split
    next pair => rw [ih, pair.1, pair.2, List.head?_cons]
    next => rw [List.head?_cons, List.head?_cons]

theorem exists_collapse_slash (s : List Char) : ∃ s', collapse ('/' :: s) = '/' :: s' :=
  List.head?_eq_some_iff.mp (by rw [head?_collapse, List.head?_cons])

theorem collapse_replicate_append (n : Nat) (s : List Char) :
    collapse (List.replicate (n + 1) '/' ++ s) = collapse ('/' :: s) := by
  induction n with
  | zero => rfl
  | succ n ih => rw [List.replicate_succ, List.replicate_succ, List.cons_append, List.cons_append, collapse_pair, ← ih,
      List.replicate_succ, List.cons_append]

/-- Texts that differ in their runs only are collapsed to the same text. -/
theorem SameButRuns.collapse_eq {s t : List Char} (alike : SameButRuns s t) : collapse s = collapse t := by
  induction alike with
  | nil => rfl
  | char other _ ih => rw [collapse_cons fun pair => other pair.1, collapse_cons fun pair => other pair.1, ih]
  | @run s t m n _ ih =>
    have heads : s.head? = t.head? := by rw [← head?_collapse s, ih, head?_collapse t]
    rw [collapse_replicate_append, collapse_replicate_append, collapse, collapse, heads, ih]

/-! ## One slash for every pair -/

theorem ShortRuns.mono {s t : List Char} (short : ShortRuns t) (part : s <:+: t) : ShortRuns s :=
  fun long => short (long.trans part)

theorem head?_pairSlashes (s : List Char) : (pairSlashes s).head? = s.head? := by
  cases s using pairSlashes.induct with
  | case1 s => rfl
  | case2 c s other => rw [pairSlashes, List.head?_cons, List.head?_cons]; exact other
  | case3 => rfl

theorem apart_of_not_pair {c : Char} {s : List Char} (other : ∀ t, c = '/' → s = '/' :: t → False) :
    ¬ (c = '/' ∧ s.head? = some '/') := by
  rintro ⟨slash, head⟩
  obtain ⟨rest, rfl⟩ := List.head?_eq_some_iff.mp head
  exact other rest slash rfl

theorem not_pair_prefix_cons {c : Char} {s : List Char} (apart : ¬ (c = '/' ∧ s.head? = some '/'))
    (more : List Char) : ¬ '/' :: '/' :: more <+: c :: s := by
  rintro ⟨t, whole⟩
  obtain ⟨rfl, rfl⟩ := List.cons_eq_cons.mp whole
  exact apart ⟨rfl, rfl⟩

/-- A pair of slashes is left where a run was longer than two. -/
theorem collapsed_pairSlashes_iff (s : List Char) : Collapsed (pairSlashes s) ↔ ShortRuns s := by
  rw [Collapsed, ShortRuns, not_iff_not]
  induction s using pairSlashes.induct with
  | case1 s ih =>
    -- What is left in front of the rest is a pair exactly when the run went on behind the two slashes.
    have front : ['/', '/'] <+: '/' :: pairSlashes s ↔ s.head? = some '/' := by
      rw [List.cons_prefix_cons, List.singleton_prefix_iff_head?_eq_some, head?_pairSlashes, and_iff_right rfl]
    have front' : ['/', '/', '/'] <+: '/' :: '/' :: s ↔ s.head? = some '/' := by
      rw [List.cons_prefix_cons, List.cons_prefix_cons, List.singleton_prefix_iff_head?_eq_some, and_iff_right rfl,
        and_iff_right rfl]
    have second : ['/', '/', '/'] <+: '/' :: s → s.head? = some '/' := by
      rw [List.cons_prefix_cons, ← List.singleton_prefix_iff_head?_eq_some]
      exact fun both => (List.prefix_append ['/'] ['/']).trans both.2
    rw [pairSlashes, List.infix_cons_iff, front, ih, List.infix_cons_iff, front', List.infix_cons_iff]
    tauto
  | case2 c s other ih =>
    have apart := apart_of_not_pair other
    have apart' : ¬ (c = '/' ∧ (pairSlashes s).head? = some '/') := by rwa [head?_pairSlashes]
    rw [pairSlashes, List.infix_cons_iff, List.infix_cons_iff, or_iff_right (not_pair_prefix_cons apart' []),
      or_iff_right (not_pair_prefix_cons apart ['/']), ih]
    exact other
  | case3 => decide

/-- Without long runs a pair of slashes is a whole run. -/
theorem pairSlashes_eq_collapse {s : List Char} (short : ShortRuns s) : pairSlashes s = collapse s := by
  induction s using pairSlashes.induct with
  | case1 s ih =>
    have ends : s.head? ≠ some '/' := by
      intro longer
      obtain ⟨rest, rfl⟩ := List.head?_eq_some_iff.mp longer
      exact short ⟨[], rest, rfl⟩
    have later : ShortRuns s := short.mono (List.suffix_append ['/', '/'] s).isInfix
    rw [pairSlashes, collapse_pair, collapse_cons fun pair => ends pair.2, ih later]
  | case2 c s other ih =>
    have later : ShortRuns s := short.mono (List.suffix_cons c s).isInfix
    rw [pairSlashes, collapse_cons (apart_of_not_pair other), ih later]
    exact other
  | case3 => rfl

/-! ## Canonical paths -/

/-- The canonical form of a path without escapes. -/
theorem toList_canonicalPath {raw : String} (plain : '%' ∉ raw.toList) :
    (canonicalPath raw).toList = pairSlashes raw.toList := by
  have pair : "//".toList ≠ [] := by decide
  have plain' : '%' ∉ replaceAll "//".toList "/".toList raw.toList := by
    intro member
    rcases mem_of_mem_replaceAll pair member with new | old
    · exact absurd new (by decide)
    · exact plain old
  rw [canonicalPath, Percent.decode_of_not_mem plain', replaceAll_pair, String.toList_ofList]

theorem canonicalPath_of_shortRuns {raw : String} (plain : '%' ∉ raw.toList) (short : ShortRuns raw.toList) :
    canonicalPath raw = String.ofList (collapse raw.toList) := by
  rw [← String.toList_inj, toList_canonicalPath plain, pairSlashes_eq_collapse short, String.toList_ofList]

theorem collapseAlike_iff {raw raw' : String} (alike : SameButRuns raw.toList raw'.toList) (plain : '%' ∉ raw.toList)
    (plain' : '%' ∉ raw'.toList) : CollapseAlike raw raw' ↔ ShortRuns raw.toList ∧ ShortRuns raw'.toList := by
  constructor
  · rintro ⟨same, collapsed⟩
    have collapsed' : Collapsed (canonicalPath raw').toList := same ▸ collapsed
    rw [toList_canonicalPath plain, collapsed_pairSlashes_iff] at collapsed
    rw [toList_canonicalPath plain', collapsed_pairSlashes_iff] at collapsed'
    exact ⟨collapsed, collapsed'⟩
  · rintro ⟨short, short'⟩
    constructor
    · rw [canonicalPath_of_shortRuns plain short, canonicalPath_of_shortRuns plain' short', alike.collapse_eq]
    · rwa [toList_canonicalPath plain, collapsed_pairSlashes_iff]

/-! ## Links -/

theorem after?_storageRoute_eq_some_iff {c : Char} {s rest : List Char} :
    after? storageRoute.toList (c :: s) = some rest ↔ c = '/' ∧ s = 'd' :: '/' :: rest := by
  have route : storageRoute.toList = ['/', 'd', '/'] := rfl
  rw [after?_eq_some_iff, route]
  exact List.cons_eq_cons

theorem storagePath?_cons (c : Char) (s : List Char) :
    storagePath? (c :: s) =
      match after? storageRoute.toList (c :: s) with
      | some rest => some ('/' :: rest)
      | none => storagePath? s := by
  rw [storagePath?, cut?]
  cases after? storageRoute.toList (c :: s) with
  | some rest => rfl
  | none => rw [Option.map_map, storagePath?]; rfl

theorem storagePath?_suffix {s path : List Char} (storage : storagePath? s = some path) : path <:+ s := by
  obtain ⟨⟨before, rest⟩, cut, rfl⟩ := Option.map_eq_some_iff.mp storage
  exact ⟨before ++ "/d".toList, by simp [eq_of_cut? cut, storageRoute]⟩

theorem exists_of_collapse_eq_cons {c : Char} {s t : List Char} (letter : c ≠ '/') (starts : collapse s = c :: t) :
    ∃ s', s = c :: s' ∧ collapse s' = t := by
  have head : s.head? = some c := by rw [← head?_collapse, starts, List.head?_cons]
  obtain ⟨s', rfl⟩ := List.head?_eq_some_iff.mp head
  rw [collapse_cons fun pair => letter pair.1] at starts
  exact ⟨s', rfl, (List.cons_eq_cons.mp starts).2⟩

/-- The front of a text is a route mark exactly when the front of the collapsed text is one. -/
theorem exists_mark_collapse_iff {s : List Char} :
    (∃ rest, collapse s = 'd' :: '/' :: rest) ↔ ∃ rest, s = 'd' :: '/' :: rest := by
  have letter : 'd' ≠ '/' := by decide
  constructor
  · rintro ⟨rest, starts⟩
    obtain ⟨s', rfl, behind⟩ := exists_of_collapse_eq_cons letter starts
    have head : s'.head? = some '/' := by rw [← head?_collapse, behind, List.head?_cons]
    obtain ⟨rest', rfl⟩ := List.head?_eq_some_iff.mp head
    exact ⟨rest', rfl⟩
  · rintro ⟨rest, rfl⟩
    obtain ⟨rest', starts⟩ := exists_collapse_slash rest
    exact ⟨rest', by rw [collapse_cons fun pair => letter pair.1, starts]⟩

theorem after?_storageRoute_collapse_eq_none_iff {c : Char} {s : List Char} :
    after? storageRoute.toList (c :: collapse s) = none ↔ after? storageRoute.toList (c :: s) = none := by
  simp only [Option.eq_none_iff_forall_ne_some, ne_eq, after?_storageRoute_eq_some_iff, ← not_exists, exists_and_left,
    exists_mark_collapse_iff]

/-- The first route mark of a path stays where it is when the runs of the path are collapsed. -/
theorem storagePath?_collapse (s : List Char) : storagePath? (collapse s) = (storagePath? s).map collapse := by
  induction s with
  | nil => rfl
  | cons c s ih =>
    by_cases pair : c = '/' ∧ s.head? = some '/'
    · -- No mark begins at a slash that another one follows.
      obtain ⟨rfl, head⟩ := pair
      obtain ⟨rest, rfl⟩ := List.head?_eq_some_iff.mp head
      rw [collapse_pair, ih, storagePath?_cons '/' ('/' :: rest)]
      rfl
    rw [collapse_cons pair, storagePath?_cons, storagePath?_cons]
    -- The mark ends in a slash, which is the first of a run; collapsing keeps it.
    cases mark : after? storageRoute.toList (c :: s) with
    | none =>
      rw [after?_storageRoute_collapse_eq_none_iff.mpr mark]
      exact ih
    | some rest =>
      obtain ⟨rfl, rfl⟩ := after?_storageRoute_eq_some_iff.mp mark
      obtain ⟨rest', starts⟩ := exists_collapse_slash rest
      have mark' : after? storageRoute.toList ('/' :: collapse ('d' :: '/' :: rest)) = some rest' := by
        rw [after?_storageRoute_eq_some_iff, collapse_cons (by simp), starts]
        exact ⟨rfl, rfl⟩
      rw [mark']
      exact congrArg some starts.symm

/-- What the signature of a link covers, when the path of the link has no escapes and no long runs. -/
theorem signedPath?_of_shortRuns {url path : String} (shown : urlPath? url = some path) (plain : '%' ∉ path.toList)
    (short : ShortRuns path.toList) : signedPath? url = (storagePath? (collapse path.toList)).map String.ofList := by
  obtain ⟨resource, found, rfl⟩ := Option.map_eq_some_iff.mp shown
  rw [String.toList_ofList] at plain short ⊢
  rw [signedPath?, found, Option.bind_some, storagePath?_collapse, Option.map_map]
  refine Option.map_congr fun p storage => ?_
  have within := storagePath?_suffix storage
  rw [Function.comp_apply, canonicalPath_of_shortRuns, String.toList_ofList]
  · rw [String.toList_ofList]
    exact fun member => plain (within.subset member)
  · rw [String.toList_ofList]
    exact short.mono within.isInfix

theorem signAt_of_signedPath? {url path : String} (unsigned : ¬ contains url (signParam ++ "=") = true)
    (stored : signedPath? url = some path) (secret : String) (expiresAt : UInt64) :
    signAt url secret expiresAt =
      url ++ separator url ++ signParam ++ "=" ++ (Token.make path secret expiresAt).paramValue := by
  rw [signAt, if_neg unsigned, stored]

/-- Links whose signatures cover the same path are signed alike. -/
theorem signedAlike_of_signedPath? {url url' : String} (same : signedPath? url = signedPath? url') :
    SignedAlike url url' := by
  intro secret expiresAt unsigned unsigned'
  cases stored : signedPath? url with
  | none =>
    refine .inl ⟨?_, ?_⟩
    · rw [signAt, if_neg unsigned, stored]
    · rw [signAt, if_neg unsigned', ← same, stored]
  | some path =>
    exact .inr ⟨_, signAt_of_signedPath? unsigned stored secret expiresAt,
      signAt_of_signedPath? unsigned' (same ▸ stored) secret expiresAt⟩

/-- Storage links that are signed alike carry the tokens of their paths, which are then the same. -/
theorem SignedAlike.paramValue_eq {url url' path path' : String} (signed : SignedAlike url url')
    (unsigned : ¬ contains url (signParam ++ "=") = true) (unsigned' : ¬ contains url' (signParam ++ "=") = true)
    (stored : signedPath? url = some path) (stored' : signedPath? url' = some path') (secret : String)
    (expiresAt : UInt64) :
    (Token.make path secret expiresAt).paramValue = (Token.make path' secret expiresAt).paramValue := by
  have changes : signAt url secret expiresAt ≠ url := by
    obtain ⟨tail, p, found, storage, -⟩ := signedPath?_eq_some_iff.mp stored
    exact signAt_ne_iff.mpr ⟨fun held => unsigned (contains_iff.mpr held), tail, p, found, storage⟩
  rcases signed secret expiresAt unsigned unsigned' with ⟨kept, -⟩ | ⟨token, behind, behind'⟩
  · exact absurd kept changes
  rw [signAt_of_signedPath? unsigned stored, String.append_right_inj] at behind
  rw [signAt_of_signedPath? unsigned' stored', String.append_right_inj] at behind'
  rw [behind, behind']

/-- Two raw paths without escapes that differ only in the lengths of their runs of slashes have one canonical
form, and it has no repeated separator, exactly when no run of either is longer than two. Links with such
paths are then signed alike. -/
theorem canonicalPath_collapses_iff {raw raw' : String} (alike : SameButRuns raw.toList raw'.toList)
    (plain : '%' ∉ raw.toList) (plain' : '%' ∉ raw'.toList) :
    (CollapseAlike raw raw' ↔ ShortRuns raw.toList ∧ ShortRuns raw'.toList) ∧
      ∀ url url', urlPath? url = some raw → urlPath? url' = some raw' → ShortRuns raw.toList → ShortRuns raw'.toList →
        SignedAlike url url' := by
  refine ⟨collapseAlike_iff alike plain plain', fun url url' shown shown' short short' => ?_⟩
  apply signedAlike_of_signedPath?
  rw [signedPath?_of_shortRuns shown plain short, signedPath?_of_shortRuns shown' plain' short', alike.collapse_eq]

/-- A pair and a single slash in the same place: one canonical form, and one token for both links. -/
theorem canonicalPath_collapses_pair :
    SameButRuns "/d/a//b".toList "/d/a/b".toList ∧ '%' ∉ "/d/a//b".toList ∧ '%' ∉ "/d/a/b".toList ∧
      CollapseAlike "/d/a//b" "/d/a/b" ∧ SignedAlike "http://h/d/a//b" "http://h/d/a/b" := by
  have alike : SameButRuns "/d/a//b".toList "/d/a/b".toList :=
    .run 0 0 (.char (by decide) (.run 0 0 (.char (by decide) (.run 1 0 (.char (by decide) .nil)))))
  have plain : '%' ∉ "/d/a//b".toList := by decide
  have plain' : '%' ∉ "/d/a/b".toList := by decide
  have short : ShortRuns "/d/a//b".toList := by decide
  have short' : ShortRuns "/d/a/b".toList := by decide
  obtain ⟨collapses, links⟩ := canonicalPath_collapses_iff alike plain plain'
  exact ⟨alike, plain, plain', collapses.mpr ⟨short, short'⟩, links _ _ rfl rfl short short'⟩

/-- A run of three slashes and a single one in the same place: the canonical form of the first keeps a
pair, and the links are signed differently. -/
theorem not_collapseAlike_longRun :
    SameButRuns "/a///b".toList "/a/b".toList ∧ '%' ∉ "/a///b".toList ∧ '%' ∉ "/a/b".toList ∧
      ¬ CollapseAlike "/a///b" "/a/b" ∧ ¬ SignedAlike "http://h/d/a///b" "http://h/d/a/b" := by
  have alike : SameButRuns "/a///b".toList "/a/b".toList :=
    .run 0 0 (.char (by decide) (.run 2 0 (.char (by decide) .nil)))
  have kept : canonicalPath "/a///b" = "/a//b" := by decide +kernel
  have single : canonicalPath "/a/b" = "/a/b" := by decide +kernel
  refine ⟨alike, by decide, by decide, fun collapses => ?_, fun signed => ?_⟩
  · have same := collapses.same
    rw [kept, single] at same
    exact absurd same (by decide)
  · have stored : signedPath? "http://h/d/a///b" = some "/a//b" := by decide +kernel
    have stored' : signedPath? "http://h/d/a/b" = some "/a/b" := by decide +kernel
    have apart : (Token.make "/a//b" "k" 0).paramValue ≠ (Token.make "/a/b" "k" 0).paramValue := by decide +kernel
    exact apart (signed.paramValue_eq (by decide) (by decide) stored stored' "k" 0)

end StreamPolicy.Link
