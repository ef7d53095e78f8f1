import StreamPolicy.File.Store

/-!
# Files that grow

What is put where no directory stands changes no way through the store, so a path that led to a file
still leads to it and reads what was put there last.
-/

namespace StreamPolicy.File

namespace Store

variable {s : Store} {p q : Place}

theorem ne_root_of_node? (file : s.node? p ≠ some .directory) : p ≠ [] := by
  rintro rfl
  exact file rfl

theorem node?_put_self (below : p ≠ []) (n : Node) : (s.put p n).node? p = some n := by
  simp [node?, put, below]

theorem node?_put_of_ne (other : q ≠ p) (n : Node) : (s.put p n).node? q = s.node? q := by
  have skipped : p ≠ q := other.symm
  simp only [node?, put, List.find?_cons, skipped, decide_false, List.find?_filter]
  congr 3
  funext m
  by_cases there : m.1 = q <;> simp [there, other]

/-- A step leaves a directory, so it does not see what stands elsewhere. -/
theorem step_put (file : s.node? p ≠ some .directory) {name : String} {next : Place} (made : s.step q name = .ok next)
    (n : Node) : (s.put p n).step q name = .ok next := by
  have other : q ≠ p := by
    rintro rfl
    rw [step] at made
    split at made
    · contradiction
    next directory => exact file directory
    · contradiction
  rwa [step, node?_put_of_ne other]

theorem walk_put (file : s.node? p ≠ some .directory) (n : Node) {names : List String} {start stop : Place}
    (led : names.foldlM s.step start = .ok stop) : names.foldlM (s.put p n).step start = .ok stop := by
  induction names generalizing start with
  | nil => exact led
  | cons name names ih =>
    rw [List.foldlM_cons] at led ⊢
    cases made : s.step start name with
    | error e => rw [made] at led; contradiction
    | ok next =>
      rw [made] at led
      rw [step_put file made]
      exact ih led

theorem place_put (file : s.node? p ≠ some .directory) (n : Node) {path : String} (led : s.place path = .ok q) :
    (s.put p n).place path = .ok q := by
  rw [place] at led ⊢
  split at led
  · contradiction
  next named =>
    split at led
    · contradiction
    next clean =>
      rw [if_neg named, if_neg clean]
      exact walk_put file n led

/-- A path leads to a place that can be appended to, or where a file can be made. -/
structure Opens (s : Store) (path : String) (p : Place) : Prop where
  led : s.place path = .ok p
  bare : endsWithSlash path = false
  file : s.node? p ≠ some .directory

theorem Opens.put {path : String} (opens : s.Opens path p) {n : Node} (file : n ≠ .directory) :
    (s.put p n).Opens path p where
  led := place_put opens.file n opens.led
  bare := opens.bare
  file := by
    rw [node?_put_self (ne_root_of_node? opens.file)]
    exact fun same => file (Option.some.inj same)

theorem Opens.read {path : String} (opens : s.Opens path p) {bytes : List UInt8}
    (found : s.node? p = some (.file bytes)) : s.read path = .ok bytes := by
  simp [Store.read, look, opens.led, found, opens.bare]

/-- A file reads as what was put in its place. -/
theorem Opens.read_put {path : String} (opens : s.Opens path p) (bytes : List UInt8) :
    (s.put p (.file bytes)).read path = .ok bytes :=
  (opens.put Node.noConfusion).read (node?_put_self (ne_root_of_node? opens.file) _)

/-- A file that was opened to append to it stands where its path leads. -/
theorem openToAppend_ok {s files : Store} {path : String} {node : Node}
    (opened : s.openToAppend path = .ok (files, p, node)) : files.Opens path p ∧ files.node? p = some node := by
  rw [openToAppend] at opened
  split at opened
  · contradiction
  next led =>
    split at opened
    · contradiction
    next bare =>
      have bare : endsWithSlash path = false := Bool.eq_false_iff.mpr bare
      split at opened
      next absent =>
        obtain ⟨rfl, rfl, rfl⟩ := opened
        have opens : s.Opens path p := ⟨led, bare, by simp [absent]⟩
        exact ⟨opens.put Node.noConfusion, node?_put_self (ne_root_of_node? opens.file) _⟩
      · contradiction
      next other found =>
        obtain ⟨rfl, rfl, rfl⟩ := opened
        exact ⟨⟨led, bare, fun same => other (Option.some.inj (found.symm.trans same))⟩, found⟩

/-- A file that can be opened to append to it is opened as it is. -/
theorem Opens.openToAppend {path : String} (opens : s.Opens path p) {bytes : List UInt8}
    (found : s.node? p = some (.file bytes)) : s.openToAppend path = .ok (s, p, .file bytes) := by
  simp [Store.openToAppend, opens.led, opens.bare, found]

/-! ## Directories -/

theorem hasDirectory_iff {path : String} :
    s.hasDirectory path = true ↔ ∃ q, s.place path = .ok q ∧ s.node? q = some .directory := by
  constructor
  · intro found
    rw [hasDirectory, look] at found
    split at found
    next shown =>
      split at shown
      · contradiction
      next q led =>
        refine ⟨q, led, ?_⟩
        split at shown
        · contradiction
        next there => exact there
        next n other there =>
          split at shown
          · contradiction
          · cases shown
            exact there
    · contradiction
  · rintro ⟨q, led, there⟩
    simp [hasDirectory, look, led, there]

/-- What is put where no directory stands leaves every directory where it was. -/
theorem hasDirectory_put (file : s.node? p ≠ some .directory) (n : Node) {path : String}
    (found : s.hasDirectory path = true) : (s.put p n).hasDirectory path = true := by
  obtain ⟨q, led, there⟩ := hasDirectory_iff.mp found
  have other : q ≠ p := by
    rintro rfl
    exact file there
  exact hasDirectory_iff.mpr ⟨q, place_put file n led, by rw [node?_put_of_ne other, there]⟩

theorem hasDirectory_of_makeDirectory {path : String} {next : Store} (made : s.makeDirectory path = .ok next) :
    next.hasDirectory path = true := by
  rw [makeDirectory] at made
  split at made
  · contradiction
  next q led =>
    split at made
    next absent =>
      cases made
      have file : s.node? q ≠ some .directory := by simp [absent]
      exact hasDirectory_iff.mpr ⟨q, place_put file .directory led, node?_put_self (ne_root_of_node? file) .directory⟩
    · contradiction

/-- When the directories on the way to a path are made, they are there. -/
theorem hasDirectory_of_makeDirectories {fuel : Nat} {path : String} (named : path ≠ "") {next : Store}
    (made : makeDirectories fuel s path = (next, .ok ())) : next.hasDirectory path = true := by
  have settled {store : Store} {e : Error}
      (made : (store, if store.hasDirectory path then Except.ok () else Except.error e) = (next, .ok ())) :
      next.hasDirectory path = true := by
    obtain ⟨rfl, result⟩ := Prod.mk.inj made
    split at result
    next found => exact found
    · contradiction
  cases fuel with
  | zero => simp [makeDirectories] at made
  | succ fuel =>
    rw [makeDirectories] at made
    dsimp only at made
    rw [if_neg named] at made
    split at made
    next created =>
      cases made
      exact hasDirectory_of_makeDirectory created
    · split at made
      · simp at made
      · split at made
        · simp at made
        · split at made
          next created =>
            cases made
            exact hasDirectory_of_makeDirectory created
          · exact settled made
    · exact settled made

/-- A directory that is there is not made again. -/
theorem makeDirectories_of_hasDirectory {path : String} (found : s.hasDirectory path = true) (fuel : Nat) :
    makeDirectories (fuel + 1) s path = (s, .ok ()) := by
  obtain ⟨q, led, there⟩ := hasDirectory_iff.mp found
  have taken : s.makeDirectory path = .error .exists := by simp [makeDirectory, led, there]
  rw [makeDirectories]
  simp [taken, found]

end Store

end StreamPolicy.File
