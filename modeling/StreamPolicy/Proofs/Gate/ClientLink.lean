import StreamPolicy.Gate
import StreamPolicy.Proofs.Link.Escaping
import StreamPolicy.Proofs.Link.Signing

/-!
# The signed link of a client

The link that a gate gives a client is built from an address and a storage path and then signed. It
leads to that very path, and its token covers it, unless the path holds a mark that ends a resource
path or the link seems to be signed already.
-/

namespace StreamPolicy

open StreamPolicy.Text

namespace Link

/-- A link leads to a file of the storage backend, and its query is the token of that file. -/
structure SignedFor (link path secret : String) (expiresAt : UInt64) : Prop where
  leads : urlPath? link = some ("/d" ++ encodeUri path)
  signed : ∃ tail, tail? link.toList = some tail ∧
    query tail = (signParam ++ "=" ++ (Token.make (coveredPath path) secret expiresAt).paramValue).toList

/-! ## The path of a file in a link -/

theorem not_mem_urlPath? {link path : String} (found : urlPath? link = some path) :
    '?' ∉ path.toList ∧ '#' ∉ path.toList := by
  rw [urlPath?, resource?_eq, Option.map_map] at found
  obtain ⟨tail, _, rfl⟩ := Option.map_eq_some_iff.mp found
  rw [Function.comp_apply, String.toList_ofList]
  exact not_mem_pathOf tail

/-! ## Links to files -/

/-- The link to a file at an address, before it is signed. -/
def fileLink (address path : String) : String :=
  address ++ "/d" ++ encodeUri path

/-- The tail of the link to a file. -/
def fileTail (path : String) : List Char :=
  "/d".toList ++ Percent.encode path.toList

/-- An address of the storage backend: a scheme and a host with nothing behind it. -/
structure IsAddress (address host : String) : Prop where
  scheme : address = "http://" ++ host ∨ address = "https://" ++ host
  inhabited : host ≠ ""
  slash : '/' ∉ host.toList
  question : '?' ∉ host.toList
  number : '#' ∉ host.toList

theorem toList_routed (path : String) : ("/d" ++ encodeUri path).toList = fileTail path := by
  rw [String.toList_append, encodeUri]
  exact congrArg _ String.toList_ofList

theorem toList_fileLink (address path : String) : (fileLink address path).toList = address.toList ++ fileTail path := by
  rw [fileLink, String.append_assoc, String.toList_append, toList_routed]

theorem mem_fileTail_iff {x : Char} (mark : Percent.IsMark x) (other : x ∉ "/d".toList) {path : String} :
    x ∈ fileTail path ↔ x ∈ path.toList := by
  rw [fileTail, List.mem_append, or_iff_right other, Percent.mem_encode_iff mark]

theorem question_mem_fileTail_iff {path : String} : '?' ∈ fileTail path ↔ '?' ∈ path.toList :=
  mem_fileTail_iff (by decide) (by decide)

theorem number_mem_fileTail_iff {path : String} : '#' ∈ fileTail path ↔ '#' ∈ path.toList :=
  mem_fileTail_iff (by decide) (by decide)

section Rooted

variable {path : String} {rest : List Char} (rooted : path.toList = '/' :: rest)

include rooted in
theorem encode_rooted : Percent.encode path.toList = '/' :: Percent.encode rest := by
  rw [rooted, Percent.encode_cons]
  rfl

include rooted in
theorem storagePath?_fileTail : storagePath? (fileTail path) = some (Percent.encode path.toList) := by
  rw [fileTail, encode_rooted rooted]
  rfl

end Rooted

section Addressed

variable {address host path : String} {rest : List Char} (addressed : IsAddress address host)
  (rooted : path.toList = '/' :: rest)

include addressed in
theorem tail?_fileLink : tail? (fileLink address path).toList = some (fileTail path) := by
  have inhabited : host.toList ≠ [] := by
    simpa using addressed.inhabited
  have start (scheme : List Char) (known : scheme ∈ schemes) (same : address.toList = scheme ++ host.toList) :
      tail? (fileLink address path).toList = some (fileTail path) := by
    rw [toList_fileLink, same, List.append_assoc]
    exact tail?_of_scheme known inhabited addressed.slash
  rcases addressed.scheme with plain | secure
  · exact start "http://".toList (by decide) (by rw [plain, String.toList_append])
  · exact start "https://".toList (by decide) (by rw [secure, String.toList_append])

include addressed in
theorem question_mem_fileLink_iff : '?' ∈ (fileLink address path).toList ↔ '?' ∈ path.toList := by
  have absent : '?' ∉ address.toList := by
    rcases addressed.scheme with plain | secure
    · simp [plain, addressed.question]
    · simp [secure, addressed.question]
  rw [toList_fileLink, List.mem_append, or_iff_right absent, question_mem_fileTail_iff]

include addressed rooted in
/-- The slashes of a link divide what could hold the key of a signature. -/
theorem signParam_infix_fileLink_iff : (signParam ++ "=").toList <:+: (fileLink address path).toList ↔
    (signParam ++ "=").toList <:+: host.toList ∨ (signParam ++ "=").toList <:+: path.toList := by
  have key : (signParam ++ "=").toList = 's' :: "ign=".toList := by decide
  have slash : '/' ∉ (signParam ++ "=").toList := by decide
  have nothing : ¬ (signParam ++ "=").toList <:+: [] := by decide
  have d : ¬ (signParam ++ "=").toList <:+: ['d'] := by decide
  have escaped : (signParam ++ "=").toList <:+: Percent.encode rest ↔ (signParam ++ "=").toList <:+: rest := by
    rw [key]
    exact Percent.infix_encode_iff (List.all_iff_forall_prop.mp (by decide))
  have inPath : (signParam ++ "=").toList <:+: path.toList ↔ (signParam ++ "=").toList <:+: rest := by
    rw [rooted, ← List.nil_append ('/' :: rest), infix_append_cons_iff slash]
    exact or_iff_right nothing
  have divided (scheme : List Char) (free : ¬ (signParam ++ "=").toList <:+: scheme)
      (same : address.toList = scheme ++ '/' :: '/' :: host.toList) :
      (signParam ++ "=").toList <:+: (fileLink address path).toList ↔
        (signParam ++ "=").toList <:+: host.toList ∨ (signParam ++ "=").toList <:+: path.toList := by
    have whole : (fileLink address path).toList =
        scheme ++ '/' :: ([] ++ '/' :: (host.toList ++ '/' :: (['d'] ++ '/' :: Percent.encode rest))) := by
      simp [toList_fileLink, fileTail, same, encode_rooted rooted]
    rw [whole, infix_append_cons_iff slash, infix_append_cons_iff slash, infix_append_cons_iff slash,
      infix_append_cons_iff slash, escaped, inPath]
    tauto
  rcases addressed.scheme with plain | secure
  · exact divided "http:".toList (by decide) (by simp [plain])
  · exact divided "https:".toList (by decide) (by simp [secure])

/-! ## Which links are right -/

/-- A link that leads to a file shows that its path has no mark that ends a resource path. -/
theorem SignedFor.plain {link secret : String} {expiresAt : UInt64} (right : SignedFor link path secret expiresAt) :
    '?' ∉ path.toList ∧ '#' ∉ path.toList := by
  have marks := not_mem_urlPath? right.leads
  rwa [toList_routed, question_mem_fileTail_iff, number_mem_fileTail_iff] at marks

include addressed in
/-- A link that holds the key of a signature stays without one. -/
theorem not_signedFor_of_held {secret : String} {expiresAt : UInt64}
    (held : (signParam ++ "=").toList <:+: (fileLink address path).toList) :
    ¬ SignedFor (signAt (fileLink address path) secret expiresAt) path secret expiresAt := by
  intro right
  obtain ⟨question, number⟩ := right.plain
  obtain ⟨tail, found, argument⟩ := right.signed
  rw [signAt, if_pos (contains_iff.mpr held), tail?_fileLink addressed] at found
  cases found
  rw [query, takeWhile_ne_of_not_mem (mt number_mem_fileTail_iff.mp number),
    dropWhile_ne_of_not_mem (mt question_mem_fileTail_iff.mp question)] at argument
  simp [signParam] at argument

include addressed rooted in
theorem signedFor_of_plain {secret : String} {expiresAt : UInt64} (question : '?' ∉ path.toList)
    (number : '#' ∉ path.toList) (unsigned : ¬ (signParam ++ "=").toList <:+: (fileLink address path).toList) :
    SignedFor (signAt (fileLink address path) secret expiresAt) path secret expiresAt := by
  have question' : '?' ∉ fileTail path := mt question_mem_fileTail_iff.mp question
  have number' : '#' ∉ fileTail path := mt number_mem_fileTail_iff.mp number
  have whole : pathOf (fileTail path) = fileTail path := pathOf_eq_self_iff.mpr ⟨question', number'⟩
  have found : tail? (fileLink address path).toList = some (fileTail path) := tail?_fileLink addressed
  have storage : storagePath? (pathOf (fileTail path)) = some (Percent.encode path.toList) := by
    rw [whole, storagePath?_fileTail rooted]
  have mark : argMark (fileLink address path) = '?' :=
    argMark_eq_question_iff.mpr (mt (question_mem_fileLink_iff addressed).mp question)
  have shown : tail? (signAt (fileLink address path) secret expiresAt).toList =
      some (fileTail path ++ '?' :: signArg (Percent.encode path.toList) secret expiresAt) := by
    rw [toList_signAt unsigned found storage, tail?_append found, mark]
  constructor
  · rw [urlPath?, resource?_eq, shown, Option.map_some, Option.map_some,
      pathOf_append_iff.mpr (.inr (.inr (.inl rfl))), whole, ← toList_routed, String.ofList_toList]
  · refine ⟨_, shown, ?_⟩
    have closed : '#' ∉ fileTail path ++ '?' :: signArg (Percent.encode path.toList) secret expiresAt := by
      have free := signArg_plain (Percent.encode path.toList) secret expiresAt '#' (by decide)
      simp only [List.mem_append, List.mem_cons, not_or]
      exact ⟨number', by decide, free⟩
    rw [query, takeWhile_ne_of_not_mem closed, dropWhile_ne_append_cons question', List.drop_one, List.tail_cons,
      signArg, canonicalPath_encode]
    simp

include addressed rooted in
/-- The signed link to a file is right unless the path of the file has a mark that ends a resource
path, or the link holds the key of a signature. -/
theorem signedFor_signAt_iff {secret : String} {expiresAt : UInt64} :
    SignedFor (signAt (fileLink address path) secret expiresAt) path secret expiresAt ↔
      '?' ∉ path.toList ∧ '#' ∉ path.toList ∧ ¬ (signParam ++ "=").toList <:+: host.toList ∧
        ¬ (signParam ++ "=").toList <:+: path.toList := by
  rw [← not_or, ← signParam_infix_fileLink_iff addressed rooted]
  constructor
  · intro right
    obtain ⟨question, number⟩ := right.plain
    exact ⟨question, number, fun held => not_signedFor_of_held addressed held right⟩
  · rintro ⟨question, number, unsigned⟩
    exact signedFor_of_plain addressed rooted question number unsigned

end Addressed

end Link

namespace Gate

open Link

/-- A gate that signs gives a client that a rule names the signed link to the file. -/
theorem clientLink?_of_hit {g : Gate} {ctx : Context} {candidate : String} {e : Entry}
    (enabled : g.policy.storage.signEnabled = true)
    (hit : firstMatch? ctx g.clientLinks candidate .storageLink = some e) (path : String) (now : Instant) :
    g.clientLink? ctx candidate (some path) now =
      some (signAt (fileLink (e.rule.extraText?.getD g.policy.storage.publicAddr) path) g.policy.storage.signSecret
        (expiryFromHours g.policy.storage.signExpireHours now)) := by
  simp [clientLink?, StreamPolicy.clientLink?, hit, directLink, enabled, sign, fileLink]

/-- The link that a gate gives a client leads to the file that was asked for and is signed for it,
exactly when the path of the file has neither a question mark nor a number sign, which a link keeps,
and neither the host nor the path holds the key of a signature, which makes the link pass for signed. -/
theorem clientLink?_signedFor_iff {g : Gate} {ctx : Context} {candidate : String} {e : Entry} {host path : String}
    (enabled : g.policy.storage.signEnabled = true)
    (hit : firstMatch? ctx g.clientLinks candidate .storageLink = some e)
    (addressed : IsAddress (e.rule.extraText?.getD g.policy.storage.publicAddr) host)
    (rooted : "/".toList <+: path.toList) (now : Instant) :
    ∃ link, g.clientLink? ctx candidate (some path) now = some link ∧
      (SignedFor link path g.policy.storage.signSecret (expiryFromHours g.policy.storage.signExpireHours now) ↔
        '?' ∉ path.toList ∧ '#' ∉ path.toList ∧ ¬ (signParam ++ "=").toList <:+: host.toList ∧
          ¬ (signParam ++ "=").toList <:+: path.toList) := by
  obtain ⟨rest, split⟩ := rooted
  exact ⟨_, clientLink?_of_hit enabled hit path now, signedFor_signAt_iff addressed split.symm⟩

/-- A gate that signs links to a host for ever and names every client that is served from the web. -/
def signing (host : String) : Gate :=
  ofPolicy
    { Policy.ofVersion "1.0" with
      clientLinkRules := [.list [.str "startsWith", .str "http"]]
      storage := ⟨"http://" ++ host, true, "k", none⟩ }

theorem firstMatch?_signing (host : String) :
    firstMatch? .empty (signing host).clientLinks "http://s" .storageLink =
      some (.bare ⟨.filePath, .known ⟨.startsWith, false⟩, .one (.literal "http"), []⟩) := by
  rfl

theorem clientLink?_signedFor_iff_signing :
    ∃ link, (signing "h").clientLink? .empty "http://s" (some "/a") 0 = some link ∧
      (SignedFor link "/a" "k" 0 ↔
        '?' ∉ "/a".toList ∧ '#' ∉ "/a".toList ∧ ¬ (signParam ++ "=").toList <:+: "h".toList ∧
          ¬ (signParam ++ "=").toList <:+: "/a".toList) :=
  clientLink?_signedFor_iff (g := signing "h") rfl (firstMatch?_signing "h")
    ⟨.inl rfl, by decide, by decide, by decide, by decide⟩ (by decide) 0

/-- A question mark or a number sign in the path, or the key of a signature in the path or the host,
makes a link that is not right. -/
theorem not_signedFor_signing :
    (¬ ∃ link, (signing "h").clientLink? .empty "http://s" (some "/a?b") 0 = some link ∧
        SignedFor link "/a?b" "k" 0) ∧
      (¬ ∃ link, (signing "h").clientLink? .empty "http://s" (some "/a#b") 0 = some link ∧
        SignedFor link "/a#b" "k" 0) ∧
      (¬ ∃ link, (signing "h").clientLink? .empty "http://s" (some "/sign=a") 0 = some link ∧
        SignedFor link "/sign=a" "k" 0) ∧
      ¬ ∃ link, (signing "sign=h").clientLink? .empty "http://s" (some "/a") 0 = some link ∧
        SignedFor link "/a" "k" 0 := by
  have wrong {host path : String} {rest : List Char} (addressed : IsAddress ("http://" ++ host) host)
      (rooted : path.toList = '/' :: rest)
      (bad : ¬ ('?' ∉ path.toList ∧ '#' ∉ path.toList ∧ ¬ (signParam ++ "=").toList <:+: host.toList ∧
        ¬ (signParam ++ "=").toList <:+: path.toList)) :
      ¬ ∃ link, (signing host).clientLink? .empty "http://s" (some path) 0 = some link ∧
        SignedFor link path "k" 0 := by
    rintro ⟨link, given, right⟩
    have built := clientLink?_of_hit (g := signing host) rfl (firstMatch?_signing host) path 0
    cases built.symm.trans given
    exact bad ((signedFor_signAt_iff addressed rooted).mp right)
  have plain : IsAddress ("http://" ++ "h") "h" := ⟨.inl rfl, by decide, by decide, by decide, by decide⟩
  have keyed : IsAddress ("http://" ++ "sign=h") "sign=h" := ⟨.inl rfl, by decide, by decide, by decide, by decide⟩
  exact ⟨wrong plain rfl (by decide), wrong plain rfl (by decide), wrong plain rfl (by decide),
    wrong keyed rfl (by decide)⟩

end Gate

end StreamPolicy
