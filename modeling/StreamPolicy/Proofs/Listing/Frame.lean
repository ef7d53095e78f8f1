import StreamPolicy.Gate
import StreamPolicy.Proofs.Json.Parts
import StreamPolicy.Proofs.Listing.Total

/-!
# What hiding leaves alone

Hiding takes items out of a body and brings its count down. It changes no other member and adds none, and
a body without items stays as it is. Only a count that overflows keeps it from coming to its end. When every
item stays, so does the whole body: the items that are left stay the second time, and without rules every
item does.
-/

namespace StreamPolicy.Listing

open StreamPolicy.Json

/-- Two values are the same, but for the values of some members. -/
inductive SameBut (changed : List String) : Value → Value → Prop
  | same (v : Value) : SameBut changed v v
  | members {ms ms' : Members} (keys : ms'.map Prod.fst = ms.map Prod.fst)
      (others : ∀ key, key ∉ changed → Members.get? key ms' = Members.get? key ms) :
      SameBut changed (.obj ms) (.obj ms')

/-- Hiding makes `shown` of a body, and of nothing but its items and its count, and comes to a result. -/
structure OnlyHides (ctx : Context) (entries : List Entry) (view : Option View) (mainItem : Option String)
    (body shown : Value) (result : Except CountOverflow HideOutcome) : Prop where
  frame : SameBut ["Items", "TotalRecordCount"] body shown
  unlisted : items? body = none → shown = body ∧ result = .ok ⟨0, 0⟩
  listed (items : List Value) : items? body = some items →
    ∃ stays : Value → Bool, (∀ item, stays item = true ↔ ¬ Hidden ctx entries view mainItem item) ∧
      items? shown = some (items.filter stays) ∧ ∀ outcome, result = .ok outcome →
        outcome.hidden + outcome.remaining = items.length ∧ outcome.remaining = (items.filter stays).length
  /-- There is an outcome unless the count overflows. -/
  overflow (cause : CountOverflow) : result = .error cause →
    ∃ total, total? body = some total ∧ cause = ⟨total, hiddenCount ctx entries view mainItem body⟩ ∧ total ≠ 0 ∧
      ¬ FitsWord (total - hiddenCount ctx entries view mainItem body)
  /-- The second time nothing is hidden, and nothing changes. -/
  again : ∃ remaining, hide ctx entries view mainItem shown = (shown, .ok ⟨0, remaining⟩) ∧
    ∀ outcome, result = .ok outcome → outcome.remaining = remaining

variable {ctx : Context} {entries : List Entry} {view : Option View} {mainItem : Option String} {body : Value}
  {ms : Members} {items : List Value}

/-! ## Members -/

theorem SameBut.trans {changed : List String} {u v w : Value} (first : SameBut changed u v) (second : SameBut changed v w) :
    SameBut changed u w := by
  cases first with
  | same => exact second
  | members keys others =>
    cases second with
    | same => exact .members keys others
    | members keys' others' =>
      exact .members (keys'.trans keys) fun key unlisted => (others' key unlisted).trans (others key unlisted)

theorem sameBut_insert {changed : List String} {key : String} {v w : Value} (found : Members.get? key ms = some v)
    (ascending : ms.Pairwise fun a b => a.1 < b.1) (listed : key ∈ changed) :
    SameBut changed (.obj ms) (.obj (Members.insert key w ms)) := by
  refine .members (Members.map_fst_insert found ascending) fun other unlisted => ?_
  have apart : key ≠ other := fun same => unlisted (same ▸ listed)
  rw [Members.get?_insert, if_neg apart]

theorem get?_of_items? (listed : items? (.obj ms) = some items) : Members.get? itemsKey ms = some (.arr items) := by
  obtain ⟨v, found, read⟩ := Option.bind_eq_some_iff.mp listed
  cases v with
  | arr items' => cases read; exact found
  | _ => cases read

/-- Without an overflow a count is replaced by another one, or there is none to bring down. -/
theorem Reduces.sameBut {hidden : Nat} {ms' : Members} (reduces : Reduces hidden ms (.ok ms'))
    (ascending : ms.Pairwise fun a b => a.1 < b.1) :
    SameBut ["Items", "TotalRecordCount"] (.obj ms) (.obj ms') ∧ ms'.Pairwise fun a b => a.1 < b.1 := by
  cases reduces with
  | uncounted | zero => exact ⟨.same _, ascending⟩
  | down counted =>
    obtain ⟨v, found, -⟩ := Option.bind_eq_some_iff.mp counted
    exact ⟨sameBut_insert found ascending (by simp [totalKey]), Members.ascending_insert ascending _ _⟩

theorem reduceTotal_zero (ascending : ms.Pairwise fun a b => a.1 < b.1) : reduceTotal 0 ms = .ok ms := by
  have reduces := reduces_reduceTotal 0 ms
  generalize reduceTotal 0 ms = reduced at reduces
  cases reduces with
  | uncounted | zero => rfl
  | @down total counted =>
    obtain ⟨v, found, read⟩ := Option.bind_eq_some_iff.mp counted
    obtain ⟨rfl, -⟩ := int64?_eq_some_iff.mp read
    have stays : Members.insert totalKey (.int total) ms = ms := Members.insert_of_get? found ascending
    rw [Int.natCast_zero, Int.sub_zero, stays]
  | overflow counted _ exceeds => exact absurd (fitsWord_sub_zero (fitsWord_of_total? counted)) exceeds

/-- What hiding leaves of members in order is in order again, and differs in the items and the count alone. -/
theorem sameBut_left (hidden : Nat) (kept : List Value) (ordered : (Value.obj ms).HasOrder)
    (listed : items? (.obj ms) = some items) :
    let put := Members.insert itemsKey (.arr kept) ms
    let left := (reduceTotal hidden put).toOption.getD put
    SameBut ["Items", "TotalRecordCount"] (.obj ms) (.obj left) ∧ (Value.obj left).HasOrder := by
  intro put left
  have ascending : put.Pairwise fun a b => a.1 < b.1 := Members.ascending_insert ordered _ _
  have placed : SameBut ["Items", "TotalRecordCount"] (.obj ms) (.obj put) :=
    sameBut_insert (get?_of_items? listed) ordered (by simp [itemsKey])
  have reduces := reduces_reduceTotal hidden put
  cases reduced : reduceTotal hidden put with
  | error cause =>
    have aborted : left = put := congrArg (·.toOption.getD put) reduced
    rw [aborted]
    exact ⟨placed, ascending⟩
  | ok ms' =>
    have done : left = ms' := congrArg (·.toOption.getD put) reduced
    rw [done]
    obtain ⟨same, ascending'⟩ := (reduced ▸ reduces).sameBut ascending
    exact ⟨placed.trans same, ascending'⟩

/-! ## Bodies -/

/-- When every item stays visible, nothing is hidden and nothing changes. -/
theorem hide_of_all_stay (ordered : body.HasOrder) (listed : items? body = some items)
    (stay : ∀ item ∈ items, staysVisible ctx (applicableEntries ctx entries view mainItem) item = true) :
    hide ctx entries view mainItem body = (body, .ok ⟨0, items.length⟩) := by
  obtain ⟨ms, rfl⟩ := exists_members_of_items? listed
  rw [hide_of_listed listed (List.filter_eq_self.mpr stay), Nat.sub_self,
    Members.insert_of_get? (get?_of_items? listed) ordered, reduceTotal_zero ordered]
  rfl

theorem hideItems_of_ruleless {g : Gate} (ruleless : g.hidden = []) (ordered : body.HasOrder) :
    g.hideItems ctx view mainItem body = hide ctx [] view mainItem body := by
  have untouched : g.hideItems ctx view mainItem body = (body, .ok ⟨0, ((items? body).getD []).length⟩) := by
    rw [Gate.hideItems, ruleless]
    rfl
  rw [untouched]
  cases listed : items? body with
  | none => exact (hide_of_unlisted listed).symm
  | some items =>
    refine (hide_of_all_stay ordered listed fun item _ => ?_).symm
    cases path : itemPath? item <;> simp [staysVisible, path, applicableEntries, firstMatch?, firstFlat?, firstGroup?,
      groupsByName, groupBy, startsFlat]

theorem onlyHides_of_unlisted (unlisted : items? body = none) :
    OnlyHides ctx entries view mainItem body body (.ok ⟨0, 0⟩) where
  frame := .same body
  unlisted _ := ⟨rfl, rfl⟩
  listed items found := absurd (found.symm.trans unlisted) (Option.some_ne_none items)
  overflow := nofun
  again := ⟨0, hide_of_unlisted unlisted, fun _ done => by cases done; rfl⟩

/-- The members after hiding are in order again, so hiding them once more hides what stayed: nothing. -/
theorem onlyHides_of_listed {kept : List Value} (ordered : (Value.obj ms).HasOrder)
    (listed : items? (.obj ms) = some items)
    (filtered : items.filter (staysVisible ctx (applicableEntries ctx entries view mainItem)) = kept) :
    OnlyHides ctx entries view mainItem (.obj ms) (hide ctx entries view mainItem (.obj ms)).1
      (hide ctx entries view mainItem (.obj ms)).2 := by
  have aborts (cause : CountOverflow) (aborted : (hide ctx entries view mainItem (.obj ms)).2 = .error cause) :=
    hide_overflows_iff.mp aborted
  rw [hide_of_listed listed filtered] at aborts ⊢
  have left := items?_reduceTotal (items.length - kept.length) (items?_insert_items kept ms)
  obtain ⟨same, ordered'⟩ := sameBut_left (items.length - kept.length) kept ordered listed
  have outcome_eq {outcome : HideOutcome} {reduced : Except CountOverflow Members}
      (done : reduced.map (fun _ => HideOutcome.mk (items.length - kept.length) kept.length) = .ok outcome) :
      outcome = ⟨items.length - kept.length, kept.length⟩ := by
    cases reduced with
    | error => cases done
    | ok => cases done; rfl
  refine ⟨same, ?_, ?_, aborts, ?_⟩
  · intro unlisted
    rw [listed] at unlisted
    cases unlisted
  · intro items' found
    obtain rfl := Option.some.inj (listed.symm.trans found)
    have fewer : kept.length ≤ items.length := filtered ▸ List.length_filter_le _ _
    refine ⟨_, staysVisible_iff, ?_⟩
    rw [filtered]
    refine ⟨left, fun outcome done => ?_⟩
    rw [outcome_eq done]
    exact ⟨Nat.sub_add_cancel fewer, rfl⟩
  · refine ⟨kept.length, hide_of_all_stay ordered' left fun item member => ?_, fun outcome done => ?_⟩
    · rw [← filtered] at member
      exact (List.mem_filter.mp member).2
    · rw [outcome_eq done]

/-- Hiding changes the items and the count of a body, and nothing else. Without rules a gate does not look
at the body, and that makes no difference. The members of the body are in order, as in every value that is
read (`Value.hasOrder_sorted`). -/
theorem hide_onlyHides (ctx : Context) (entries : List Entry) (view : Option View) (mainItem : Option String)
    {body : Value} (ordered : body.HasOrder) :
    OnlyHides ctx entries view mainItem body (hide ctx entries view mainItem body).1
        (hide ctx entries view mainItem body).2 ∧
      ∀ g : Gate, g.hidden = [] → g.hideItems ctx view mainItem body = hide ctx [] view mainItem body := by
  refine ⟨?_, fun g ruleless => hideItems_of_ruleless ruleless ordered⟩
  cases listed : items? body with
  | none =>
    rw [hide_of_unlisted listed]
    exact onlyHides_of_unlisted listed
  | some items =>
    obtain ⟨ms, rfl⟩ := exists_members_of_items? listed
    exact onlyHides_of_listed ordered listed rfl

/-- One of two items goes, the count goes down in its place, and a member that hiding does not know stays. -/
theorem hide_onlyHides_unsorted :
    let body : Value := (Value.obj [("TotalRecordCount", .int 40), ("StartIndex", .int 7),
      ("Items", .arr [.obj [("Path", .str "/x/a")], .obj [("Path", .str "/y")]])]).sorted
    let shown : Value := .obj [("Items", .arr [.obj [("Path", .str "/y")]]), ("StartIndex", .int 7),
      ("TotalRecordCount", .int 39)]
    body.HasOrder ∧ hide Context.empty hideBelow none none body = (shown, .ok ⟨1, 1⟩) ∧
      OnlyHides Context.empty hideBelow none none body shown (.ok ⟨1, 1⟩) ∧
      (Gate.ofPolicy (.ofVersion "1.0")).hideItems Context.empty none none body =
        hide Context.empty [] none none body := by
  intro body shown
  have ordered : body.HasOrder := Value.hasOrder_sorted _
  have ran : hide Context.empty hideBelow none none body = (shown, .ok ⟨1, 1⟩) := rfl
  obtain ⟨hides, untouched⟩ := hide_onlyHides Context.empty hideBelow none none ordered
  rw [ran] at hides
  exact ⟨ordered, ran, hides, untouched (.ofPolicy (.ofVersion "1.0")) rfl⟩

end StreamPolicy.Listing
