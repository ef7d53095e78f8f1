import StreamPolicy.Proofs.Link.Resource
import StreamPolicy.Proofs.Link.Token

/-!
# Signing a link and checking it

Signing puts one argument at the very end of a link. A verifier reads the path and the query of what
it gets, so it finds the signature where the end of the link still belongs to the query, and the path
unchanged where the mark before the argument ends it.
-/

namespace StreamPolicy.Link

open StreamPolicy.Text

/-- The query of a tail: what follows the first question mark, in what stands before the first number
sign. -/
def query (tail : List Char) : List Char :=
  ((tail.takeWhile (· ≠ '#')).dropWhile (· ≠ '?')).drop 1

/-- The query of a tail for a reader that looks for the question mark in the fragment too: what
follows the first question mark, up to the next number sign. -/
def laxQuery (tail : List Char) : List Char :=
  ((tail.dropWhile (· ≠ '?')).drop 1).takeWhile (· ≠ '#')

/-- A query has an argument. -/
def HasArg (query : List Char) (key value : String) : Prop :=
  key.toList ++ '=' :: value.toList ∈ query.splitOn '&'

/-- A verifier accepts a link: its query carries the token of the path that it shows. -/
def Accepts (queryOf : List Char → List Char) (link secret : String) (expiresAt : UInt64) : Prop :=
  ∃ tail path, tail? link.toList = some tail ∧ storagePath? (pathOf tail) = some path ∧
    HasArg (queryOf tail) signParam (Token.make (canonicalPath (String.ofList path)) secret expiresAt).paramValue

/-- A signed link has the path of the plain one, and a verifier accepts it. -/
def Verifies (queryOf : List Char → List Char) (url secret : String) (expiresAt : UInt64) : Prop :=
  urlPath? (signAt url secret expiresAt) = urlPath? url ∧
    Accepts queryOf (signAt url secret expiresAt) secret expiresAt

/-! ## What signing writes -/

/-- The mark before the argument: an ampersand when the link has a question mark. -/
def argMark (url : String) : Char :=
  if '?' ∈ url.toList then '&' else '?'

theorem argMark_eq_or (url : String) : argMark url = '&' ∨ argMark url = '?' := by
  rw [argMark]
  split
  · exact .inl rfl
  · exact .inr rfl

theorem argMark_eq_question_iff {url : String} : argMark url = '?' ↔ '?' ∉ url.toList := by
  rw [argMark]
  split
  next queried => simpa using queried
  next bare => simpa using bare

/-- The argument that carries the token of a storage path. -/
def signArg (path : List Char) (secret : String) (expiresAt : UInt64) : List Char :=
  signParam.toList ++ '=' :: (Token.make (canonicalPath (String.ofList path)) secret expiresAt).paramValue.toList

theorem not_mem_signArg {x : Char} (mark : ¬ IsTokenChar x) (path : List Char) (secret : String)
    (expiresAt : UInt64) : x ∉ signArg path secret expiresAt := by
  have name : ∀ c ∈ signParam.toList ++ ['='], IsTokenChar c := List.all_iff_forall_prop.mp (by decide)
  intro member
  rw [signArg, ← List.singleton_append, ← List.append_assoc, List.mem_append] at member
  rcases member with key | value
  · exact mark (name x key)
  · exact mark (isTokenChar_of_mem_paramValue value)

theorem signArg_plain (path : List Char) (secret : String) (expiresAt : UInt64) :
    ∀ x ∈ ['&', '?', '#'], x ∉ signArg path secret expiresAt := by
  have marks : ∀ x ∈ ['&', '?', '#'], ¬ IsTokenChar x := List.all_iff_forall_prop.mp (by decide)
  exact fun x listed => not_mem_signArg (marks x listed) path secret expiresAt

theorem signParam_infix_signArg (path : List Char) (secret : String) (expiresAt : UInt64) :
    (signParam ++ "=").toList <:+: signArg path secret expiresAt := by
  refine ⟨[], (Token.make (canonicalPath (String.ofList path)) secret expiresAt).paramValue.toList, ?_⟩
  simp [signArg]

theorem signedPath?_eq_some_iff {url path : String} :
    signedPath? url = some path ↔ ∃ tail p, tail? url.toList = some tail ∧ storagePath? (pathOf tail) = some p ∧
      path = canonicalPath (String.ofList p) := by
  rw [signedPath?, resource?_eq, Option.map_eq_some_iff]
  constructor
  · rintro ⟨p, found, rfl⟩
    obtain ⟨resource, shown, storage⟩ := Option.bind_eq_some_iff.mp found
    obtain ⟨tail, found, rfl⟩ := Option.map_eq_some_iff.mp shown
    exact ⟨tail, p, found, storage, rfl⟩
  · rintro ⟨tail, p, found, storage, rfl⟩
    exact ⟨p, by rw [found, Option.map_some, Option.bind_some, storage], rfl⟩

/-- What signing writes behind a link that holds no signature and leads to storage. -/
theorem toList_signAt {url : String} {tail path : List Char} (unsigned : ¬ (signParam ++ "=").toList <:+: url.toList)
    (found : tail? url.toList = some tail) (storage : storagePath? (pathOf tail) = some path) (secret : String)
    (expiresAt : UInt64) :
    (signAt url secret expiresAt).toList = url.toList ++ argMark url :: signArg path secret expiresAt := by
  have holds : contains url "?" = true ↔ '?' ∈ url.toList := by
    rw [contains_iff]
    exact List.singleton_infix_iff '?' url.toList
  have unsigned' : ¬ contains url (signParam ++ "=") = true := fun signed => unsigned (contains_iff.mp signed)
  rw [signAt, if_neg unsigned', signedPath?_eq_some_iff.mpr ⟨tail, path, found, storage, rfl⟩]
  by_cases queried : '?' ∈ url.toList
  · simp [signArg, argMark, separator, holds.mpr queried, queried]
  · have bare : ¬ contains url "?" = true := fun held => queried (holds.mp held)
    simp [signArg, argMark, separator, bare, queried]

/-- Signing changes the links that hold no signature and lead to storage. -/
theorem signAt_ne_iff {url secret : String} {expiresAt : UInt64} :
    signAt url secret expiresAt ≠ url ↔ ¬ (signParam ++ "=").toList <:+: url.toList ∧
      ∃ tail path, tail? url.toList = some tail ∧ storagePath? (pathOf tail) = some path := by
  constructor
  · intro changes
    have unsigned : ¬ contains url (signParam ++ "=") = true := by
      intro signed
      exact changes (by rw [signAt, if_pos signed])
    refine ⟨fun held => unsigned (contains_iff.mpr held), ?_⟩
    cases stored : signedPath? url with
    | none => exact absurd (by rw [signAt, if_neg unsigned, stored]) changes
    | some path =>
      obtain ⟨tail, p, found, storage, _⟩ := signedPath?_eq_some_iff.mp stored
      exact ⟨tail, p, found, storage⟩
  · rintro ⟨unsigned, tail, path, found, storage⟩ same
    have longer := congrArg List.length (toList_signAt unsigned found storage secret expiresAt)
    rw [same, List.length_append, List.length_cons] at longer
    omega

/-! ## What a verifier reads -/

/-- The path of a tail ends at a mark that the tail has, or at the mark before the argument. -/
theorem pathOf_append_iff {tail arg : List Char} {mark : Char} :
    pathOf (tail ++ mark :: arg) = pathOf tail ↔ '?' ∈ tail ∨ '#' ∈ tail ∨ mark = '?' ∨ mark = '#' := by
  by_cases marked : '?' ∈ tail ∨ '#' ∈ tail
  · have ends : ¬ (pathOf tail).length = tail.length := by
      intro whole
      have plain := pathOf_eq_self_iff.mp ((List.takeWhile_prefix _).eq_of_length whole)
      exact marked.elim plain.1 plain.2
    refine iff_of_true ?_ (by tauto)
    rw [pathOf] at ends
    rw [pathOf, List.takeWhile_append, if_neg ends, pathOf]
  · obtain ⟨question, number⟩ := not_or.mp marked
    rw [pathOf_append_of_plain question number, pathOf_eq_self_iff.mpr ⟨question, number⟩, List.append_right_eq_self,
      pathOf, List.takeWhile_cons]
    by_cases ends : mark = '?' ∨ mark = '#'
    · rcases ends with rfl | rfl <;> simp
    · obtain ⟨first, second⟩ := not_or.mp ends
      simp [first, second, question, number]

theorem mem_splitOn_append_cons {x : Char} {arg : List Char} (absent : x ∉ arg) (before : List Char) :
    arg ∈ (before ++ x :: arg).splitOn x := by
  rw [List.splitOn_append_cons_self, List.splitOn_eq_singleton absent]
  exact List.mem_append_right _ (List.mem_singleton_self arg)

/-- The query of a tail with an argument behind it, read up to the first number sign. -/
theorem mem_query_iff {tail arg : List Char} {mark : Char} (marks : mark = '&' ∨ mark = '?')
    (queried : '?' ∈ tail → mark = '&') (plain : ∀ x ∈ ['&', '?', '#'], x ∉ arg) (new : ¬ arg <:+: tail) :
    arg ∈ (query (tail ++ mark :: arg)).splitOn '&' ↔ '#' ∉ tail ∧ ('?' ∈ tail ∨ mark = '?') := by
  have amp : '&' ∉ arg := plain _ (by decide)
  have question : '?' ∉ arg := plain _ (by decide)
  have number : '#' ∉ arg := plain _ (by decide)
  by_cases fragment : '#' ∈ tail
  · -- The query ends inside the tail.
    obtain ⟨a, b, rfl, early⟩ := List.eq_append_cons_of_mem fragment
    refine iff_of_false (fun member => new ?_) fun both => both.1 fragment
    rw [query, List.append_assoc, List.cons_append, takeWhile_ne_append_cons early] at member
    exact ((infix_of_mem_splitOn member).trans ((List.drop_suffix 1 _).trans (List.dropWhile_suffix _)).isInfix).trans
      (List.prefix_append a _).isInfix
  · have open_ : '#' ∉ tail ++ mark :: arg := by
      rcases marks with rfl | rfl <;> simp [fragment, number]
    rw [query, takeWhile_ne_of_not_mem open_]
    by_cases asked : '?' ∈ tail
    · obtain ⟨a, b, rfl, early⟩ := List.eq_append_cons_of_mem asked
      rw [queried asked, List.append_assoc, List.cons_append, dropWhile_ne_append_cons early, List.drop_one,
        List.tail_cons]
      exact iff_of_true (mem_splitOn_append_cons amp b) ⟨fragment, .inl asked⟩
    · rcases marks with rfl | rfl
      · have none : '?' ∉ tail ++ '&' :: arg := by simp [asked, question]
        rw [dropWhile_ne_of_not_mem none]
        refine iff_of_false (fun member => new ?_) (by simp [asked])
        rw [List.drop_nil, List.splitOn_nil, List.mem_singleton] at member
        rw [member]
        exact List.nil_infix
      · rw [dropWhile_ne_append_cons asked, List.drop_one, List.tail_cons, List.splitOn_eq_singleton amp]
        exact iff_of_true (List.mem_singleton_self arg) ⟨fragment, .inr rfl⟩

/-- The same for a reader that looks for the question mark in the fragment too. -/
theorem mem_laxQuery_iff {tail arg : List Char} {mark : Char} (marks : mark = '&' ∨ mark = '?')
    (queried : '?' ∈ tail → mark = '&') (plain : ∀ x ∈ ['&', '?', '#'], x ∉ arg) (new : ¬ arg <:+: tail) :
    arg ∈ (laxQuery (tail ++ mark :: arg)).splitOn '&' ↔
      mark = '?' ∨ ∃ a b, tail = a ++ '?' :: b ∧ '?' ∉ a ∧ '#' ∉ b := by
  have amp : '&' ∉ arg := plain _ (by decide)
  have question : '?' ∉ arg := plain _ (by decide)
  have number : '#' ∉ arg := plain _ (by decide)
  by_cases asked : '?' ∈ tail
  · obtain ⟨a, b, rfl, early⟩ := List.eq_append_cons_of_mem asked
    have only : (∃ a' b', a ++ '?' :: b = a' ++ '?' :: b' ∧ '?' ∉ a' ∧ '#' ∉ b') ↔ '#' ∉ b := by
      constructor
      · rintro ⟨a', b', split, early', plain⟩
        have same := congrArg (List.dropWhile (· ≠ '?')) split
        rw [dropWhile_ne_append_cons early, dropWhile_ne_append_cons early'] at same
        cases same
        exact plain
      · exact fun plain => ⟨a, b, rfl, early, plain⟩
    rw [queried asked, only, laxQuery, List.append_assoc, List.cons_append, dropWhile_ne_append_cons early,
      List.drop_one, List.tail_cons]
    by_cases fragment : '#' ∈ b
    · obtain ⟨c, d, rfl, first⟩ := List.eq_append_cons_of_mem fragment
      refine iff_of_false (fun member => new ?_) (by simp)
      rw [List.append_assoc, List.cons_append, takeWhile_ne_append_cons first] at member
      have inside : c <:+: a ++ '?' :: (c ++ '#' :: d) := ⟨a ++ ['?'], '#' :: d, by simp⟩
      exact (infix_of_mem_splitOn member).trans inside
    · have whole : '#' ∉ b ++ '&' :: arg := by simp [fragment, number]
      rw [takeWhile_ne_of_not_mem whole]
      exact iff_of_true (mem_splitOn_append_cons amp b) (.inr fragment)
  · have none : ¬ ∃ a b, tail = a ++ '?' :: b ∧ '?' ∉ a ∧ '#' ∉ b := by
      rintro ⟨a, b, rfl, _⟩
      exact asked (by simp)
    rcases marks with rfl | rfl
    · have unasked : '?' ∉ tail ++ '&' :: arg := by simp [asked, question]
      rw [laxQuery, dropWhile_ne_of_not_mem unasked]
      refine iff_of_false (fun member => new ?_) (by simpa using none)
      rw [List.drop_nil, List.takeWhile_nil, List.splitOn_nil, List.mem_singleton] at member
      rw [member]
      exact List.nil_infix
    · rw [laxQuery, dropWhile_ne_append_cons asked, List.drop_one, List.tail_cons, takeWhile_ne_of_not_mem number,
        List.splitOn_eq_singleton amp]
      exact iff_of_true (List.mem_singleton_self arg) (.inl rfl)

/-! ## Signing, then checking -/

/-- A signed link verifies when its path is that of the plain one and its query has the argument. -/
theorem verifies_iff {url secret : String} {expiresAt : UInt64} {tail path : List Char}
    (unsigned : ¬ (signParam ++ "=").toList <:+: url.toList) (found : tail? url.toList = some tail)
    (storage : storagePath? (pathOf tail) = some path) (queryOf : List Char → List Char) {signed : List Char}
    (written : signed = tail ++ argMark url :: signArg path secret expiresAt) :
    Verifies queryOf url secret expiresAt ↔
      pathOf signed = pathOf tail ∧ signArg path secret expiresAt ∈ (queryOf signed).splitOn '&' := by
  have whole := toList_signAt unsigned found storage secret expiresAt
  have shown : tail? (signAt url secret expiresAt).toList = some signed := by
    rw [whole, tail?_append found, written]
  have paths : urlPath? (signAt url secret expiresAt) = urlPath? url ↔ pathOf signed = pathOf tail := by
    rw [urlPath?, urlPath?, resource?_eq, resource?_eq, shown, found]
    simp [String.ofList_inj]
  rw [Verifies, paths]
  refine and_congr_right fun same => ?_
  rw [Accepts, shown]
  constructor
  · rintro ⟨tail', path', equal, storage', has⟩
    cases equal
    rw [same, storage] at storage'
    cases storage'
    exact has
  · intro has
    exact ⟨signed, path, rfl, by rw [same, storage], has⟩

section Checked

variable {url secret : String} {expiresAt : UInt64} {tail path : List Char}
  (unsigned : ¬ (signParam ++ "=").toList <:+: url.toList) (found : tail? url.toList = some tail)
  (storage : storagePath? (pathOf tail) = some path)

include found in
theorem argMark_of_mem_tail (queried : '?' ∈ tail) : argMark url = '&' :=
  if_pos ((tail?_suffix found).subset queried)

include unsigned found in
theorem not_signArg_infix_tail : ¬ signArg path secret expiresAt <:+: tail := fun held =>
  unsigned (((signParam_infix_signArg path secret expiresAt).trans held).trans (tail?_suffix found).isInfix)

include unsigned found storage in
/-- The signature must not fall into a fragment, and the mark before it must be right for the tail. -/
theorem verifies_query_iff :
    Verifies query url secret expiresAt ↔ '#' ∉ tail ∧ ('?' ∈ tail ∨ '?' ∉ url.toList) := by
  rw [verifies_iff unsigned found storage query rfl, mem_query_iff (argMark_eq_or url) (argMark_of_mem_tail found)
    (signArg_plain path secret expiresAt) (not_signArg_infix_tail unsigned found), pathOf_append_iff,
    argMark_eq_question_iff]
  constructor
  · exact And.right
  · rintro ⟨fragment, asked⟩
    exact ⟨by tauto, fragment, asked⟩

include unsigned found storage in
theorem verifies_laxQuery_iff :
    Verifies laxQuery url secret expiresAt ↔
      '?' ∉ url.toList ∨ ∃ a b, tail = a ++ '?' :: b ∧ '?' ∉ a ∧ '#' ∉ b := by
  rw [verifies_iff unsigned found storage laxQuery rfl, mem_laxQuery_iff (argMark_eq_or url)
    (argMark_of_mem_tail found) (signArg_plain path secret expiresAt) (not_signArg_infix_tail unsigned found),
    pathOf_append_iff, argMark_eq_question_iff]
  constructor
  · exact And.right
  · rintro (unasked | ⟨a, b, rfl, early, closed⟩)
    · exact ⟨by tauto, .inl unasked⟩
    · exact ⟨.inl (by simp), .inr ⟨a, b, rfl, early, closed⟩⟩

end Checked

/-- A link that signing changes verifies exactly when its tail has no fragment and the first question
mark of the link, if there is one, does not stand before the tail only. A reader that looks for the
query in the fragment too accepts it exactly when the link has no question mark, or its tail has one
with no number sign behind it. -/
theorem verifies_signAt_iff {url secret : String} {expiresAt : UInt64} (changes : signAt url secret expiresAt ≠ url) :
    ∃ tail, tail? url.toList = some tail ∧
      (Verifies query url secret expiresAt ↔ '#' ∉ tail ∧ ('?' ∈ tail ∨ '?' ∉ url.toList)) ∧
      (Verifies laxQuery url secret expiresAt ↔
        '?' ∉ url.toList ∨ ∃ a b, tail = a ++ '?' :: b ∧ '?' ∉ a ∧ '#' ∉ b) := by
  obtain ⟨unsigned, tail, path, found, storage⟩ := signAt_ne_iff.mp changes
  exact ⟨tail, found, verifies_query_iff unsigned found storage, verifies_laxQuery_iff unsigned found storage⟩

theorem verifies_signAt_iff_plain :
    signAt "http://h/d/a" "k" 0 ≠ "http://h/d/a" ∧
      ∃ tail, tail? "http://h/d/a".toList = some tail ∧
        (Verifies query "http://h/d/a" "k" 0 ↔ '#' ∉ tail ∧ ('?' ∈ tail ∨ '?' ∉ "http://h/d/a".toList)) ∧
        (Verifies laxQuery "http://h/d/a" "k" 0 ↔
          '?' ∉ "http://h/d/a".toList ∨ ∃ a b, tail = a ++ '?' :: b ∧ '?' ∉ a ∧ '#' ∉ b) := by
  have changes : signAt "http://h/d/a" "k" 0 ≠ "http://h/d/a" :=
    signAt_ne_iff.mpr ⟨by decide, "/d/a".toList, "/a".toList, by decide, by decide⟩
  exact ⟨changes, verifies_signAt_iff changes⟩

/-- A link with a query and a fragment is signed in its fragment, where no verifier looks. -/
theorem not_verifies_fragment :
    signAt "http://h/d/a?x=1#f" "k" 0 ≠ "http://h/d/a?x=1#f" ∧
      ¬ Verifies query "http://h/d/a?x=1#f" "k" 0 ∧ ¬ Verifies laxQuery "http://h/d/a?x=1#f" "k" 0 := by
  have unsigned : ¬ (signParam ++ "=").toList <:+: "http://h/d/a?x=1#f".toList := by decide
  have found : tail? "http://h/d/a?x=1#f".toList = some "/d/a?x=1#f".toList := by decide
  have storage : storagePath? (pathOf "/d/a?x=1#f".toList) = some "/a".toList := by decide
  refine ⟨signAt_ne_iff.mpr ⟨unsigned, _, _, found, storage⟩, ?_, ?_⟩
  · rw [verifies_query_iff unsigned found storage]
    decide
  · rw [verifies_laxQuery_iff unsigned found storage]
    rintro (unasked | ⟨a, b, split, early, closed⟩)
    · revert unasked
      decide
    · have same := congrArg (List.dropWhile (· ≠ '?')) split
      rw [dropWhile_ne_append_cons early] at same
      have rest : "?x=1#f".toList = '?' :: b := same
      cases rest
      revert closed
      decide

end StreamPolicy.Link
