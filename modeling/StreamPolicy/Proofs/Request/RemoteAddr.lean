import StreamPolicy.Proofs.Json.Members
import StreamPolicy.Proofs.Text.Search
import StreamPolicy.Rule.Evaluation

/-!
# What a rule sees of the client's address

The address is a text in the section of variables. A path of an expression sees it in three places
only: at the address itself, at the section, and at the root. A rule is recognised as looking at the
address by the first of these; the other two show it inside the text of an object.
-/

namespace StreamPolicy

open StreamPolicy.Json

namespace Context

/-- The section of variables of a request whose client has an address. -/
def variablesWith (ctx : Context) (addr : String) : Members :=
  Members.insert remoteAddrKey (.str addr) (ctx.sectionMembers variablesSection)

theorem get?_withRemoteAddr (ctx : Context) (addr name : String) :
    Members.get? name (ctx.withRemoteAddr addr).members =
      if variablesSection = name then some (.obj (ctx.variablesWith addr)) else Members.get? name ctx.members :=
  Members.get?_insert name variablesSection _ ctx.members

theorem get?_variablesWith (ctx : Context) (addr name : String) :
    Members.get? name (ctx.variablesWith addr) =
      if remoteAddrKey = name then some (.str addr)
      else Members.get? name (ctx.sectionMembers variablesSection) :=
  Members.get?_insert name remoteAddrKey _ _

theorem isInternal_withRemoteAddr (ctx : Context) (addr : String) :
    (ctx.withRemoteAddr addr).isInternal = ctx.isInternal := by
  have other : variablesSection ≠ argsSection := by decide
  have same : (ctx.withRemoteAddr addr).arg? internalArg = ctx.arg? internalArg := by
    simp only [arg?, text?, get?_withRemoteAddr, if_neg other]
  rw [isInternal, same, isInternal]

end Context

namespace Expression

open Context

/-- The names of a path behind the one that stands for the root. -/
def steps (path : String) : List String :=
  (Text.split path propertySeparator).drop 1

/-- Past the root and the section of variables, and off the address itself, nothing depends on the
address. -/
theorem descend?_withRemoteAddr (ctx : Context) (a b : String) {names : List String} (root : names ≠ [])
    (above : names ≠ [variablesSection]) (address : names ≠ remoteAddrPath) :
    descend? (ctx.withRemoteAddr a).tree names = descend? (ctx.withRemoteAddr b).tree names := by
  cases names with
  | nil => exact absurd rfl root
  | cons name names =>
    simp only [descend?, child?, tree, get?_withRemoteAddr]
    by_cases here : variablesSection = name
    · subst here
      simp only [if_true]
      cases names with
      | nil => exact absurd rfl above
      | cons key names =>
        simp only [descend?, child?, get?_variablesWith]
        by_cases there : remoteAddrKey = key
        · subst there
          cases names with
          | nil => exact absurd rfl address
          | cons deeper names => simp only [if_true, descend?, child?]
        · simp only [if_neg there]
    · simp only [if_neg here]

end Expression

namespace Source

open Expression

/-- A path that ends at an object which holds the address: at the root or at the section of
variables. -/
def PathShowsRemoteAddr (path : String) : Prop :=
  Text.isBlankText path = false ∧ (steps path = [] ∨ steps path = [Context.variablesSection])

/-- Some path of an expression ends at an object which holds the address. -/
def ShowsRemoteAddr : Source → Prop
  | .expression text => ∃ path ∈ Text.split text groupSeparator, PathShowsRemoteAddr path
  | _ => False

/-- The steps of a path that has any lie behind its first separator. -/
theorem exists_of_steps {path : String} {names : List String} (some : names ≠ []) (equal : steps path = names) :
    ∃ root rest, path.toList = root ++ '.' :: rest ∧ '.' ∉ root ∧ rest.splitOn '.' = names.map String.toList := by
  rw [steps, Text.split_singleton path (x := '.') rfl] at equal
  by_cases dotted : '.' ∈ path.toList
  · obtain ⟨root, rest, split, undotted⟩ := List.eq_append_cons_of_mem dotted
    refine ⟨root, rest, split, undotted, ?_⟩
    rw [split, List.splitOn_append_cons_self_of_not_mem undotted, List.map_cons, List.drop_one, List.tail_cons]
      at equal
    simp [← equal]
  · rw [List.splitOn_eq_singleton dotted] at equal
    exact absurd equal.symm some

/-- A path that leads to the address is recognised, whatever blanks stand around it. -/
theorem pathReadsRemoteAddr_of_steps {path : String} (leads : steps path = Context.remoteAddrPath) :
    pathReadsRemoteAddr path = true := by
  obtain ⟨root, rest, split, undotted, names⟩ := exists_of_steps (List.cons_ne_nil _ _) leads
  have address : rest = "variables.remote_addr".toList := by
    have joined : ['.'].intercalate (rest.splitOn '.') = rest := List.intercalate_splitOn '.'
    rw [← joined, names]
    rfl
  have trimmed : (Text.trim path).toList = root.dropWhile Text.isBlank ++ '.' :: rest := by
    rw [Text.trim, String.toList_ofList, split, List.dropWhile_append, address]
    by_cases blank : (root.dropWhile Text.isBlank).isEmpty = true
    · rw [if_pos blank, List.isEmpty_iff.mp blank]
      rfl
    · rw [if_neg blank, List.reverse_append, List.dropWhile_append]
      simp [Text.isBlank]
  have bare : '.' ∉ root.dropWhile Text.isBlank := fun member => undotted (List.dropWhile_subset _ member)
  rw [pathReadsRemoteAddr, Text.split_singleton _ (x := '.') rfl, trimmed,
    List.splitOn_append_cons_self_of_not_mem bare, names]
  rfl

/-! ## What stays the same -/

theorem subject?_expression (ctx : Context) (candidate text : String) :
    (expression text).subject? ctx candidate =
      if Text.isBlankText text then none
      else some (Text.join groupSeparator (values ctx.tree text propertySeparator groupSeparator)) := by
  have separators : ¬ (propertySeparator = "" ∨ groupSeparator = "") := by decide
  rw [subject?, resolveUsual, resolve]
  by_cases blank : Text.isBlankText text = true
  · rw [if_pos blank, if_pos blank]
  · rw [if_neg blank, if_neg blank, if_neg separators]

/-- A source that neither reads the address nor shows it stands for one text whatever the address. -/
theorem subject?_withRemoteAddr {s : Source} (unread : s.readsRemoteAddr = false) (hidden : ¬ s.ShowsRemoteAddr)
    (ctx : Context) (a b candidate : String) :
    s.subject? (ctx.withRemoteAddr a) candidate = s.subject? (ctx.withRemoteAddr b) candidate := by
  cases s with
  | filePath => rfl
  | storageLink => rfl
  | expression text =>
    have same : values (ctx.withRemoteAddr a).tree text propertySeparator groupSeparator =
        values (ctx.withRemoteAddr b).tree text propertySeparator groupSeparator := by
      apply List.filterMap_congr
      intro path kept
      obtain ⟨listed, visible⟩ := List.mem_filter.mp kept
      have plain : Text.isBlankText path = false := by simpa using visible
      have elsewhere : ¬ (steps path = [] ∨ steps path = [Context.variablesSection]) :=
        fun above => hidden ⟨path, listed, plain, above⟩
      have off : steps path ≠ Context.remoteAddrPath := fun leads =>
        List.any_eq_false.mp unread path listed (pathReadsRemoteAddr_of_steps leads)
      obtain ⟨root, above⟩ := not_or.mp elsewhere
      exact congrArg (·.bind truthy?) (descend?_withRemoteAddr ctx a b root above off)
    rw [subject?_expression, subject?_expression, same]

/-! ## What is shown -/

/-- A path that ends above the address leads to an object whose text holds the address. -/
theorem exists_lookup?_of_shows {path : String} (shows : PathShowsRemoteAddr path) (ctx : Context) (addr : String) :
    ∃ ms, lookup? (ctx.withRemoteAddr addr).tree path propertySeparator = some (.obj ms) ∧
      quoteChars addr.toList <:+: (Value.obj ms).compactChars := by
  have address : Members.get? Context.remoteAddrKey (ctx.variablesWith addr) = some (.str addr) := by
    rw [Context.get?_variablesWith, if_pos rfl]
  have atSection : Members.get? Context.variablesSection (ctx.withRemoteAddr addr).members =
      some (.obj (ctx.variablesWith addr)) := by
    rw [Context.get?_withRemoteAddr, if_pos rfl]
  have inSection : quoteChars addr.toList <:+: (Value.obj (ctx.variablesWith addr)).compactChars := by
    simpa only [Value.compactChars] using compactChars_infix_obj address
  have end_ (names : List String) (equal : steps path = names) :
      lookup? (ctx.withRemoteAddr addr).tree path propertySeparator = descend? (ctx.withRemoteAddr addr).tree names :=
    congrArg (descend? _) equal
  rcases shows.2 with root | above
  · exact ⟨_, end_ _ root, inSection.trans (compactChars_infix_obj atSection)⟩
  · refine ⟨_, (end_ _ above).trans ?_, inSection⟩
    simp only [descend?, child?, Context.tree, atSection]

theorem isBlankText_of_mem_split {text path : String} (blank : Text.isBlankText text = true)
    (listed : path ∈ Text.split text groupSeparator) : Text.isBlankText path = true := by
  rw [Text.split_singleton text (x := ':') rfl] at listed
  obtain ⟨piece, member, rfl⟩ := List.mem_map.mp listed
  rw [Text.isBlankText, List.all_eq_true] at blank
  rw [Text.isBlankText, String.toList_ofList, List.all_eq_true]
  intro c inside
  exact blank c ((Text.infix_of_mem_splitOn member).subset inside)

/-- A source that shows the address stands for a text which holds it, between quotes. -/
theorem exists_subject?_of_shows {s : Source} (shows : s.ShowsRemoteAddr) (ctx : Context) (addr candidate : String) :
    ∃ subject, s.subject? (ctx.withRemoteAddr addr) candidate = some subject ∧
      quoteChars addr.toList <:+: subject.toList := by
  cases s with
  | filePath => exact shows.elim
  | storageLink => exact shows.elim
  | expression text =>
    obtain ⟨path, listed, shown⟩ := shows
    have plain : ¬ Text.isBlankText text = true := by
      intro blank
      simpa [shown.1] using isBlankText_of_mem_split blank listed
    obtain ⟨ms, found, held⟩ := exists_lookup?_of_shows shown ctx addr
    have valued : (Value.obj ms).compact ∈
        values (ctx.withRemoteAddr addr).tree text propertySeparator groupSeparator := by
      refine List.mem_filterMap.mpr ⟨path, List.mem_filter.mpr ⟨listed, by simp [shown.1]⟩, ?_⟩
      rw [found]
      rfl
    have joined : (Value.obj ms).compact.toList <:+:
        (Text.join groupSeparator (values (ctx.withRemoteAddr addr).tree text propertySeparator groupSeparator)).toList :=
      Text.infix_join valued
    refine ⟨_, by rw [subject?_expression, if_neg plain], held.trans ?_⟩
    rwa [Value.compact, String.toList_ofList] at joined

end Source

end StreamPolicy
