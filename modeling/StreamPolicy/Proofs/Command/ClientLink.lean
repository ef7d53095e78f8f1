import StreamPolicy.Command.Report
import StreamPolicy.Proofs.Gate.ClientLink
import StreamPolicy.Proofs.Link.FilePart

/-!
# The file behind the link of a client

Without a storage path the link of a client is built from the candidate: its file path is taken with
its escapes and escaped once more. The canonical path of the link undoes one of the two, so the link
leads to the file of the candidate when nothing of its path is escaped, and to no file that was asked
for otherwise.
-/

namespace StreamPolicy

open StreamPolicy.Text

namespace Link

/-- A link leads to a file of the storage backend: what stands behind the route of its path is the
path of the file in another spelling. -/
def LeadsTo (link path : String) : Prop :=
  ∃ part, urlPath? link = some ("/d" ++ part) ∧ canonicalPath part = path

/-! ## The path of a signed link -/

/-- Signing does not change the path of a link without a question mark. -/
theorem urlPath?_signAt {url : String} (unasked : '?' ∉ url.toList) (secret : String) (expiresAt : UInt64) :
    urlPath? (signAt url secret expiresAt) = urlPath? url := by
  by_cases same : signAt url secret expiresAt = url
  · rw [same]
  · obtain ⟨unsigned, tail, path, found, storage⟩ := signAt_ne_iff.mp same
    have ends : pathOf (tail ++ argMark url :: signArg path secret expiresAt) = pathOf tail :=
      pathOf_append_iff.mpr (.inr (.inr (.inl (argMark_eq_question_iff.mpr unasked))))
    simp only [urlPath?, resource?_eq, toList_signAt unsigned found storage, tail?_append found, found,
      Option.map_some, ends]

/-- A gate leaves a link alone or signs it. -/
theorem directLink_eq_or (g : Gate) (url : String) (now : Instant) :
    g.directLink url now = url ∨ ∃ secret expiresAt, g.directLink url now = signAt url secret expiresAt := by
  by_cases enabled : g.policy.storage.signEnabled = true
  · exact .inr ⟨_, _, if_pos enabled⟩
  · exact .inl (if_neg enabled)

section Addressed

variable {address host path : String} (addressed : IsAddress address host) (question : '?' ∉ path.toList)
  (number : '#' ∉ path.toList)

include addressed question number

theorem urlPath?_fileLink : urlPath? (fileLink address path) = some ("/d" ++ encodeUri path) := by
  have whole : pathOf (fileTail path) = fileTail path :=
    pathOf_eq_self_iff.mpr ⟨mt question_mem_fileTail_iff.mp question, mt number_mem_fileTail_iff.mp number⟩
  rw [urlPath?, resource?_eq, tail?_fileLink addressed, Option.map_some, whole, Option.map_some, ← toList_routed,
    String.ofList_toList]

theorem urlPath?_directLink (g : Gate) (now : Instant) :
    urlPath? (g.directLink (fileLink address path) now) = some ("/d" ++ encodeUri path) := by
  have unasked : '?' ∉ (fileLink address path).toList := mt (question_mem_fileLink_iff addressed).mp question
  rcases directLink_eq_or g (fileLink address path) now with plain | ⟨secret, expiresAt, signed⟩
  · rw [plain, urlPath?_fileLink addressed question number]
  · rw [signed, urlPath?_signAt unasked, urlPath?_fileLink addressed question number]

/-- The link of a gate leads to one file, whose path is the one that it was built from. -/
theorem leadsTo_directLink_iff (g : Gate) (now : Instant) {file : String} :
    LeadsTo (g.directLink (fileLink address path) now) file ↔ coveredPath path = file := by
  have escaped : canonicalPath (encodeUri path) = coveredPath path := canonicalPath_encode path
  rw [LeadsTo, urlPath?_directLink addressed question number]
  constructor
  · rintro ⟨part, same, rfl⟩
    rw [← escaped, (String.append_right_inj "/d").mp (Option.some.inj same)]
  · rintro rfl
    exact ⟨_, rfl, escaped⟩

end Addressed

theorem pair_infix_encode_iff {s : List Char} : "//".toList <:+: Percent.encode s ↔ "//".toList <:+: s := by
  have pair : "//".toList = '/' :: ['/'] := by decide
  rw [pair]
  exact Percent.infix_encode_iff (List.all_iff_forall_prop.mp (by decide))

theorem toList_encodeUri (path : String) : (encodeUri path).toList = Percent.encode path.toList :=
  String.toList_ofList

/-- A path without a pair of slashes is what its signature covers. -/
theorem coveredPath_of_single {path : String} (single : ¬ "//".toList <:+: path.toList) : coveredPath path = path := by
  rw [coveredPath, replaceAll_of_not_infix (by decide) single, String.ofList_toList]

theorem isAbsolute_iff {path : String} :
    isAbsolute path = true ↔ "/".toList <+: path.toList ∨ "\\".toList <+: path.toList := by
  rw [isAbsolute, Bool.or_eq_true, startsWith, startsWith, List.isPrefixOf_iff_prefix, List.isPrefixOf_iff_prefix]

end Link

namespace Command

open Link

/-- The path that the link of a client is built from when none is given. -/
def servedPath (candidate : String) : String :=
  (storagePathOf candidate).getD candidate

/-- Building a path from a candidate brings in no other characters than a slash. -/
theorem not_mem_servedPath {x : Char} {candidate : String} (other : x ≠ '/') (absent : x ∉ candidate.toList) :
    x ∉ (servedPath candidate).toList := by
  rw [servedPath, storagePathOf, filePathPart?]
  cases found : filePart? candidate.toList with
  | none => exact absent
  | some part =>
    have lost : x ∉ part := fun member => absent ((infix_of_filePart? found).subset member)
    simp only [Option.map_some, Option.getD_some]
    split
    · rwa [String.toList_ofList]
    · simp [other, lost]

/-! ## Candidates that lead to a file -/

/-- The link to a file on a server, as a candidate. -/
def candidateFor (server path : String) : String :=
  fileLink ("http://" ++ server) path

section Rooted

variable {server path : String} {rest : List Char} (whole : '/' ∉ server.toList) (rooted : path.toList = '/' :: rest)

include rooted in
theorem toList_candidateFor : (candidateFor server path).toList =
    "http:".toList ++ '/' :: ([] ++ '/' :: (server.toList ++ '/' :: (['d'] ++ '/' :: Percent.encode rest))) := by
  rw [candidateFor, toList_fileLink, fileTail, encode_rooted rooted, String.toList_append]
  simp

include whole rooted in
/-- The file path of such a candidate stands behind the server when its name is a marker, and behind
the route otherwise. -/
theorem filePart?_candidateFor : filePart? (candidateFor server path).toList =
    if server.toList ∈ markers then some ('d' :: Percent.encode path.toList) else some (Percent.encode rest) := by
  have route : ['d'] ∈ markers := by decide
  have empty : [] ∉ markers := by decide
  have newline : '\n' ∉ Percent.encode rest := Percent.not_mem_encode (by decide) (by decide) rest
  rw [toList_candidateFor rooted, filePart?_append_of_not_mem (by decide), filePart?_segment List.not_mem_nil,
    if_neg empty, filePart?_segment whole]
  by_cases marker : server.toList ∈ markers
  · have behind : '\n' ∉ ['d'] ++ '/' :: Percent.encode rest := by
      simp [newline]
    rw [if_pos marker, if_pos marker, takeWhile_ne_of_not_mem behind, encode_rooted rooted]
    rfl
  · rw [if_neg marker, if_neg marker, filePart?_segment (by decide), if_pos route,
      takeWhile_ne_of_not_mem newline]

include whole rooted in
/-- The path is built with the escapes that the candidate has. -/
theorem servedPath_candidateFor (single : ¬ "//".toList <:+: path.toList) : servedPath (candidateFor server path) =
    if server.toList ∈ markers then "/d" ++ encodeUri path else encodeUri path := by
  rw [servedPath, storagePathOf, filePathPart?, filePart?_candidateFor whole rooted]
  by_cases marker : server.toList ∈ markers
  · have below : ¬ isAbsolute (String.ofList ('d' :: Percent.encode path.toList)) = true := by
      simp [isAbsolute_iff]
    rw [if_pos marker, if_pos marker, Option.map_some, Option.map_some, if_neg below, Option.getD_some, encodeUri,
      ← String.toList_inj]
    simp
  · have below : ¬ isAbsolute (String.ofList (Percent.encode rest)) = true := by
      have chars : (String.ofList (Percent.encode rest)).toList = Percent.encode rest := String.toList_ofList
      rw [isAbsolute_iff, chars, not_or]
      refine ⟨fun slash => single ?_, fun backslash => ?_⟩
      · obtain ⟨more, slash⟩ := slash
        rw [← pair_infix_encode_iff, encode_rooted rooted, ← slash]
        exact ⟨[], more, rfl⟩
      · have first : '\\' ∈ "\\".toList := by decide
        exact Percent.not_mem_encode (by decide) (by decide) rest (backslash.subset first)
    rw [if_neg marker, if_neg marker, Option.map_some, Option.map_some, if_neg below, Option.getD_some, encodeUri,
      encode_rooted rooted, ← String.toList_inj]
    simp

end Rooted

theorem not_mem_candidateFor {x : Char} {server path : String} (address : x ∉ "http:///d".toList)
    (host : x ∉ server.toList) (escaped : x ∉ Percent.encode path.toList) :
    x ∉ (candidateFor server path).toList := by
  have divided : "http:///d".toList = "http://".toList ++ "/d".toList := by decide
  rw [divided, List.mem_append, not_or] at address
  rw [candidateFor, toList_fileLink, fileTail, String.toList_append]
  simp only [List.mem_append, not_or]
  exact ⟨⟨address.1, host⟩, address.2, escaped⟩

section Absolute

variable {path : String} (single : ¬ "//".toList <:+: path.toList)

include single in
theorem coveredPath_encodeUri_iff :
    coveredPath (encodeUri path) = path ↔ ∀ c ∈ path.toList, Percent.isKept c = true := by
  have single' : ¬ "//".toList <:+: (encodeUri path).toList := by
    rw [toList_encodeUri, pair_infix_encode_iff]
    exact single
  rw [coveredPath_of_single single', ← String.toList_inj, toList_encodeUri, Percent.encode_eq_self_iff]

include single in
/-- With the name of a directory in front a path is never what it was. -/
theorem coveredPath_routed_ne : coveredPath ("/d" ++ encodeUri path) ≠ path := by
  have divided : ("/d" ++ encodeUri path).toList = '/' :: 'd' :: Percent.encode path.toList := by
    simp [toList_encodeUri]
  have single' : ¬ "//".toList <:+: ("/d" ++ encodeUri path).toList := by
    have pair : "//".toList = ['/', '/'] := by decide
    have escaped : ¬ ['/', '/'] <:+: Percent.encode path.toList := by
      rwa [← pair, pair_infix_encode_iff]
    rw [divided, pair, List.infix_cons_iff, List.infix_cons_iff]
    simp [escaped]
  intro same
  have lengths := congrArg (List.length ∘ String.toList) same
  have longer := Percent.length_le_length_encode path.toList
  rw [coveredPath_of_single single', Function.comp_apply, divided, List.length_cons, List.length_cons,
    Function.comp_apply] at lengths
  omega

end Absolute

/-- The path that is read off a candidate is that of its file exactly when nothing of it is escaped and
the server is not taken for a marker. -/
theorem coveredPath_servedPath_iff {server path : String} (plain : ∀ x ∈ ['/', '\\'], x ∉ server.toList)
    (other : server ≠ "d") (absolute : isAbsolute path = true) (single : ¬ "//".toList <:+: path.toList) :
    coveredPath (servedPath (candidateFor server path)) = path ↔
      server ≠ "False" ∧ ∀ c ∈ path.toList, Percent.isKept c = true := by
  rcases isAbsolute_iff.mp absolute with ⟨rest, slash⟩ | backslash
  · have rooted : path.toList = '/' :: rest := slash.symm
    have marked : server.toList ∈ markers ↔ server = "False" := by
      simp only [markers, List.mem_cons, List.not_mem_nil, or_false, String.toList_inj, other]
    rw [servedPath_candidateFor (plain '/' (by decide)) rooted single]
    by_cases false : server = "False"
    · rw [if_pos (marked.mpr false)]
      exact iff_of_false (coveredPath_routed_ne single) fun right => right.1 false
    · rw [if_neg (mt marked.mp false), coveredPath_encodeUri_iff single]
      exact (and_iff_right false).symm
  · -- A backslash is always escaped, so that no path read off a candidate has one.
    have member : '\\' ∈ path.toList := backslash.subset (by decide : '\\' ∈ "\\".toList)
    have lost : '\\' ∉ (servedPath (candidateFor server path)).toList :=
      not_mem_servedPath (by decide) (not_mem_candidateFor (by decide) (plain _ (by decide))
        (Percent.not_mem_encode (by decide) (by decide) _))
    refine iff_of_false (fun same => ?_) fun right => absurd (right.2 _ member) (by decide)
    rw [← same, coveredPath, String.toList_ofList] at member
    rcases mem_of_mem_replaceAll (by decide) member with new | old
    · revert new
      decide
    · exact lost old

/-! ## The link that is printed -/

/-- A subcommand prints a link. -/
def Prints (g : Gate) (env : Surroundings) (task : Task) (link : String) : Prop :=
  ∃ report, task.report g env = .ok report ∧ report.output = (Json.Value.object [("link", .str link)]).pretty

theorem prints_clientLink {g : Gate} {env : Surroundings} {request : RequestFacts} {candidate : String} {e : Entry}
    (hit : firstMatch? request.context g.clientLinks candidate .storageLink = some e) :
    Prints g env (.clientLink candidate none request)
      (g.directLink (fileLink (e.rule.extraText?.getD g.policy.storage.publicAddr) (servedPath candidate)) env.now) := by
  refine ⟨_, rfl, ?_⟩
  simp only [reportClientLink, Gate.clientLink?, StreamPolicy.clientLink?, hit, Option.none_or, Option.map_some]
  rfl

/-- A file on a server, such that a link shows its path and the server is not taken for the route. -/
structure IsServed (server path : String) : Prop where
  plain : ∀ x ∈ ['/', '\\', '?', '#'], x ∉ server.toList
  unrouted : server ≠ "d"
  absolute : isAbsolute path = true
  single : ¬ "//".toList <:+: path.toList
  question : '?' ∉ path.toList
  number : '#' ∉ path.toList

theorem leadsTo_servedPath_iff {address host server path : String} (addressed : IsAddress address host)
    (served : IsServed server path) (g : Gate) (now : Instant) :
    LeadsTo (g.directLink (fileLink address (servedPath (candidateFor server path))) now) path ↔
      server ≠ "False" ∧ ∀ c ∈ path.toList, Percent.isKept c = true := by
  have question : '?' ∉ (servedPath (candidateFor server path)).toList :=
    not_mem_servedPath (by decide) (not_mem_candidateFor (by decide) (served.plain _ (by decide))
      (mt (Percent.mem_encode_iff (by decide)).mp served.question))
  have number : '#' ∉ (servedPath (candidateFor server path)).toList :=
    not_mem_servedPath (by decide) (not_mem_candidateFor (by decide) (served.plain _ (by decide))
      (mt (Percent.mem_encode_iff (by decide)).mp served.number))
  have slashes : ∀ x ∈ ['/', '\\'], x ∉ server.toList := fun x listed =>
    served.plain x (List.mem_append_left ['?', '#'] listed)
  rw [leadsTo_directLink_iff addressed question number,
    coveredPath_servedPath_iff slashes served.unrouted served.absolute served.single]

/-- For a candidate that leads to a file on a server the subcommand prints a link, and that link leads
to the same file exactly when the path of the file is written without escapes and the server does not
have the name of the other marker. -/
theorem clientLink_leadsTo_iff {g : Gate} {env : Surroundings} {request : RequestFacts} {e : Entry}
    {host server path : String}
    (hit : firstMatch? request.context g.clientLinks (candidateFor server path) .storageLink = some e)
    (addressed : IsAddress (e.rule.extraText?.getD g.policy.storage.publicAddr) host)
    (served : IsServed server path) :
    ∃ link, Prints g env (.clientLink (candidateFor server path) none request) link ∧
      (LeadsTo link path ↔ server ≠ "False" ∧ ∀ c ∈ path.toList, Percent.isKept c = true) :=
  ⟨_, prints_clientLink hit, leadsTo_servedPath_iff addressed served g env.now⟩

/-- A request about which nothing is known. -/
def bareRequest : RequestFacts :=
  ⟨[], [], none, false⟩

/-- No files, no input, and the first instant. -/
def bareSurroundings : Surroundings :=
  ⟨⟨[], []⟩, [], 0, "policy.yaml"⟩

/-- The entry that names every client of the signing gate. -/
def webEntry : Entry :=
  .bare ⟨.filePath, .known ⟨.startsWith, false⟩, .one (.literal "http"), []⟩

theorem isAddress_signing :
    IsAddress (webEntry.rule.extraText?.getD (Gate.signing "h").policy.storage.publicAddr) "h" :=
  ⟨.inl rfl, by decide, by decide, by decide, by decide⟩

theorem isServed_space : IsServed "g" "/a b" :=
  ⟨by simp, by decide, by decide, by decide, by decide, by decide⟩

theorem hit_space : firstMatch? bareRequest.context (Gate.signing "h").clientLinks (candidateFor "g" "/a b")
    .storageLink = some webEntry := by
  rfl

theorem clientLink_leadsTo_iff_space :
    ∃ link, Prints (.signing "h") bareSurroundings (.clientLink (candidateFor "g" "/a b") none bareRequest) link ∧
      (LeadsTo link "/a b" ↔ "g" ≠ "False" ∧ ∀ c ∈ "/a b".toList, Percent.isKept c = true) :=
  clientLink_leadsTo_iff hit_space isAddress_signing isServed_space

/-- The link for a file with a blank in its name leads to a file with an escape in its name, and the
link for a file on a server of the name of the other marker into another directory. -/
theorem not_leadsTo_clientLink :
    (IsServed "g" "/a b" ∧
        ∃ link, Prints (.signing "h") bareSurroundings (.clientLink (candidateFor "g" "/a b") none bareRequest) link ∧
          ¬ LeadsTo link "/a b") ∧
      IsServed "False" "/a" ∧
        ∃ link, Prints (.signing "h") bareSurroundings (.clientLink (candidateFor "False" "/a") none bareRequest) link ∧
          ¬ LeadsTo link "/a" := by
  have served : IsServed "False" "/a" := ⟨by simp, by decide, by decide, by decide, by decide, by decide⟩
  have hit : firstMatch? bareRequest.context (Gate.signing "h").clientLinks (candidateFor "False" "/a") .storageLink =
      some webEntry := by
    rfl
  refine ⟨⟨isServed_space, _, prints_clientLink hit_space, ?_⟩, served, _, prints_clientLink hit, ?_⟩
  · rw [leadsTo_servedPath_iff isAddress_signing isServed_space]
    exact fun right => absurd (right.2 ' ' (by decide)) (by decide)
  · rw [leadsTo_servedPath_iff isAddress_signing served]
    exact fun right => right.1 rfl

end Command

end StreamPolicy
