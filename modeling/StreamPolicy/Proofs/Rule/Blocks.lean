import StreamPolicy.Proofs.Rule.FirstMatch

/-!
# The two blocks of a rule list

The flat entries of a list and its groups are two blocks, and the first entry that has no route says
which of them is tried first. `Chosen` is the entry that is picked that way, and the search finds it.
Entries with a route might as well not be there, and the order of the others decides which entry is
found, not whether one is.
-/

namespace StreamPolicy

variable {ctx : Context} {entries entries' : List Entry} {candidate : String} {about : Source}

/-- The first flat entry that matches. -/
def FlatHit (ctx : Context) (candidate : String) (about : Source) (entries : List Entry) : Entry → Prop :=
  First (fun e => e.IsFlat ∧ e.MatchesAbout ctx candidate about) entries

/-- The first entry of the first group whose entries all match. -/
def GroupHit (ctx : Context) (candidate : String) (entries : List Entry) (e : Entry) : Prop :=
  ∃ n, FirstName Entry.BelongsTo (Entry.Together ctx candidate entries) entries n ∧ First (·.BelongsTo n) entries e

/-- The first entry without a route belongs to a group. -/
def GroupsLead (entries : List Entry) : Prop :=
  ∃ e n, First (fun e => e.route? = none) entries e ∧ e.BelongsTo n

/-- The entry that decides about a candidate: the hit of the leading block, else that of the other. -/
inductive Chosen (ctx : Context) (candidate : String) (about : Source) (entries : List Entry) (e : Entry) : Prop
  | group (lead : GroupsLead entries) (hit : GroupHit ctx candidate entries e)
  | flatBehind (lead : GroupsLead entries) (apart : ∀ g, ¬ GroupHit ctx candidate entries g)
      (hit : FlatHit ctx candidate about entries e)
  | flat (lead : ¬ GroupsLead entries) (hit : FlatHit ctx candidate about entries e)
  | groupBehind (lead : ¬ GroupsLead entries) (missed : ∀ f, ¬ FlatHit ctx candidate about entries f)
      (hit : GroupHit ctx candidate entries e)

theorem eq_none_iff_forall_not_hit {α : Type} {hit? : Option α} {Hit : α → Prop} (hits : ∀ a, hit? = some a ↔ Hit a) :
    hit? = none ↔ ∀ a, ¬ Hit a := by
  simp [Option.eq_none_iff_forall_ne_some, hits]

theorem Entry.isTagged_eq_false_iff (e : Entry) : e.isTagged = false ↔ e.route? = none := by
  cases e <;> simp [isTagged, route?]

theorem route?_eq_none_of_isFlat {e : Entry} (flat : e.IsFlat) : e.route? = none := by
  cases flat <;> rfl

theorem route?_eq_none_of_belongsTo {e : Entry} {n : String} (belongs : e.BelongsTo n) : e.route? = none := by
  cases belongs
  rfl

theorem find?_untagged_eq_some_iff {e : Entry} :
    (entries.find? fun e => !e.isTagged) = some e ↔ First (fun e => e.route? = none) entries e :=
  find?_eq_some_iff_first fun e => by rw [Bool.not_eq_true', Entry.isTagged_eq_false_iff]

theorem firstMatch?_of_groupsLead (lead : GroupsLead entries) :
    firstMatch? ctx entries candidate about =
      (firstGroup? ctx entries candidate).or (firstFlat? ctx entries candidate about) := by
  obtain ⟨e, n, first, belongs⟩ := lead
  have starts : startsFlat entries = false := by
    rw [startsFlat, find?_untagged_eq_some_iff.mpr first]
    cases belongs
    rfl
  rw [firstMatch?, starts]
  rfl

theorem firstMatch?_of_not_groupsLead (lead : ¬ GroupsLead entries) :
    firstMatch? ctx entries candidate about =
      (firstFlat? ctx entries candidate about).or (firstGroup? ctx entries candidate) := by
  cases found : entries.find? fun e => !e.isTagged with
  | some e =>
    have flat : e.isGrouped = false := by
      cases e with
      | grouped n r => exact absurd ⟨_, n, find?_untagged_eq_some_iff.mp found, .grouped n r⟩ lead
      | _ => rfl
    rw [firstMatch?, startsFlat, found]
    simp [flat]
  | none =>
    -- Every entry has a route, so neither block has an entry, and it does not matter which one leads.
    have routed : ∀ e ∈ entries, e.route? ≠ none := by
      simpa [Entry.isTagged_eq_false_iff] using found
    have noFlat : firstFlat? ctx entries candidate about = none :=
      firstFlat?_eq_none_iff.mpr fun e member hit => routed e member (route?_eq_none_of_isFlat hit.1)
    have noGroup : firstGroup? ctx entries candidate = none :=
      firstGroup?_eq_none_iff.mpr fun e member n belongs _ => routed e member (route?_eq_none_of_belongsTo belongs)
    rw [firstMatch?, noFlat, noGroup]
    simp

theorem firstMatch?_eq_some_iff_chosen {e : Entry} :
    firstMatch? ctx entries candidate about = some e ↔ Chosen ctx candidate about entries e := by
  have noFlat : firstFlat? ctx entries candidate about = none ↔ ∀ f, ¬ FlatHit ctx candidate about entries f :=
    eq_none_iff_forall_not_hit fun f => firstFlat?_eq_some_iff
  have noGroup : firstGroup? ctx entries candidate = none ↔ ∀ g, ¬ GroupHit ctx candidate entries g :=
    eq_none_iff_forall_not_hit fun g => firstGroup?_eq_some_iff
  by_cases lead : GroupsLead entries
  · rw [firstMatch?_of_groupsLead lead, Option.or_eq_some_iff, noGroup, firstFlat?_eq_some_iff,
      firstGroup?_eq_some_iff]
    constructor
    · rintro (hit | ⟨apart, hit⟩)
      · exact .group lead hit
      · exact .flatBehind lead apart hit
    · rintro (⟨_, hit⟩ | ⟨_, apart, hit⟩ | ⟨trail, _⟩ | ⟨trail, _⟩)
      · exact .inl hit
      · exact .inr ⟨apart, hit⟩
      · exact absurd lead trail
      · exact absurd lead trail
  · rw [firstMatch?_of_not_groupsLead lead, Option.or_eq_some_iff, noFlat, firstFlat?_eq_some_iff,
      firstGroup?_eq_some_iff]
    constructor
    · rintro (hit | ⟨missed, hit⟩)
      · exact .flat lead hit
      · exact .groupBehind lead missed hit
    · rintro (⟨leads, _⟩ | ⟨leads, _⟩ | ⟨_, hit⟩ | ⟨_, missed, hit⟩)
      · exact absurd leads lead
      · exact absurd leads lead
      · exact .inl hit
      · exact .inr ⟨missed, hit⟩

/-! ## Entries with a route -/

/-- A search that wants no item which was left out finds what it found before. -/
theorem find?_filter_of_imp {α : Type} {keep wanted : α → Bool} (within : ∀ a, wanted a = true → keep a = true)
    (items : List α) : (items.filter keep).find? wanted = items.find? wanted := by
  rw [List.find?_filter]
  congr 1
  funext a
  rw [Bool.eq_iff_iff, decide_eq_true_iff, and_iff_right_iff_imp]
  exact within a

theorem firstMatch?_untagged :
    firstMatch? ctx (entries.filter fun e => !e.isTagged) candidate about =
      firstMatch? ctx entries candidate about := by
  have flats : firstFlat? ctx (entries.filter fun e => !e.isTagged) candidate about =
      firstFlat? ctx entries candidate about := by
    refine find?_filter_of_imp (fun e hit => ?_) entries
    cases e with
    | tagged d n r => cases hit
    | _ => rfl
  have groups : (entries.filter fun e => !e.isTagged).filter Entry.isGrouped = entries.filter Entry.isGrouped := by
    rw [List.filter_filter]
    congr 1
    funext e
    cases e <;> rfl
  have members (n : String) : (entries.filter fun e => !e.isTagged).find? (Entry.isOfGroup n) =
      entries.find? (Entry.isOfGroup n) := by
    refine find?_filter_of_imp (fun e hit => ?_) entries
    cases e with
    | tagged d n r => cases hit
    | _ => rfl
  have starts : startsFlat (entries.filter fun e => !e.isTagged) = startsFlat entries := by
    rw [startsFlat, find?_filter_of_imp fun _ untagged => untagged, startsFlat]
  simp only [firstMatch?, firstGroup?, flats, groups, members, starts]

/-! ## The order of the entries -/

theorem together_of_perm (perm : entries.Perm entries') (n : String) :
    Entry.Together ctx candidate entries n ↔ Entry.Together ctx candidate entries' n :=
  forall_congr' fun _ => imp_congr_left perm.mem_iff

theorem firstMatch?_eq_none_of_perm (perm : entries.Perm entries') :
    firstMatch? ctx entries candidate about = none ↔ firstMatch? ctx entries' candidate about = none := by
  simp only [firstMatch?_eq_none_iff, perm.mem_iff, together_of_perm perm]

/-- The search finds the entry that the two blocks choose. It does not see entries with a route, and
whether it finds an entry does not depend on the order of the list. -/
theorem firstMatch?_chooses (ctx : Context) (entries : List Entry) (candidate : String) (about : Source) :
    (∀ e, firstMatch? ctx entries candidate about = some e ↔ Chosen ctx candidate about entries e) ∧
      firstMatch? ctx (entries.filter fun e => !e.isTagged) candidate about =
        firstMatch? ctx entries candidate about ∧
      ∀ entries', entries.Perm entries' →
        (firstMatch? ctx entries' candidate about).isSome = (firstMatch? ctx entries candidate about).isSome := by
  refine ⟨fun e => firstMatch?_eq_some_iff_chosen, firstMatch?_untagged, ?_⟩
  intro entries' perm
  rw [Bool.eq_iff_iff, Option.isSome_iff_ne_none, Option.isSome_iff_ne_none, not_iff_not]
  exact (firstMatch?_eq_none_of_perm perm).symm

/-- Read backwards, a list that started flat starts with a group, which is then found first. -/
theorem firstMatch?_chooses_reversed :
    let rule (text : String) : Rule := ⟨.filePath, .known (.plain .includes), .one (.literal text), []⟩
    let entries : List Entry := [.tagged .block (some "g") (rule "/kids"), .single (rule "/tv"), .grouped "g" (rule "/a"),
      .grouped "g" (rule "/tv")]
    entries.Perm entries.reverse ∧
      Chosen Context.empty "/tv/a" .filePath entries (.single (rule "/tv")) ∧
      Chosen Context.empty "/tv/a" .filePath entries.reverse (.grouped "g" (rule "/tv")) ∧
      (firstMatch? Context.empty entries.reverse "/tv/a" .filePath).isSome =
        (firstMatch? Context.empty entries "/tv/a" .filePath).isSome := by
  intro rule entries
  have perm : entries.Perm entries.reverse := (List.reverse_perm entries).symm
  obtain ⟨forwards, -, anyOrder⟩ := firstMatch?_chooses Context.empty entries "/tv/a" .filePath
  obtain ⟨backwards, -⟩ := firstMatch?_chooses Context.empty entries.reverse "/tv/a" .filePath
  exact ⟨perm, (forwards _).mp rfl, (backwards _).mp rfl, anyOrder _ perm⟩

end StreamPolicy
