import StreamPolicy.Proofs.Listing.Hiding

/-!
# The count of a listing

The count of all records goes down by the number of hidden items, in integers of 64 bits. It need not be
the number of items in the body, so nothing keeps the difference within 64 bits or above zero: only a
count of zero is left alone. `total?_hide_safe_iff` says for which counts hiding is safe.
-/

namespace StreamPolicy.Listing

open StreamPolicy.Json

open Classical in
/-- How many items of a body are hidden. -/
noncomputable def hiddenCount (ctx : Context) (entries : List Entry) (view : Option View) (mainItem : Option String)
    (body : Value) : Nat :=
  ((items? body).getD []).countP fun item => decide (Hidden ctx entries view mainItem item)

/-- What becomes of a count when some items are hidden. -/
inductive CountAfter (total : Int) (hidden : Nat) (shown : Value) : Except CountOverflow HideOutcome → Prop
  | zero {remaining : Nat} (zero : total = 0) (left : total? shown = some 0) :
      CountAfter total hidden shown (.ok ⟨hidden, remaining⟩)
  | down {remaining : Nat} (other : total ≠ 0) (fits : FitsWord (total - hidden))
      (left : total? shown = some (total - hidden)) : CountAfter total hidden shown (.ok ⟨hidden, remaining⟩)
  /-- The run is aborted. -/
  | overflow (other : total ≠ 0) (exceeds : ¬ FitsWord (total - hidden)) :
      CountAfter total hidden shown (.error ⟨total, hidden⟩)

/-- A count comes down safely. -/
structure ComesDownSafely (total : Int) (shown : Value) (result : Except CountOverflow HideOutcome) : Prop where
  /-- The difference does not overflow. -/
  returns : ∀ overflow, result ≠ .error overflow
  /-- A count that is not negative does not become so. -/
  nonneg : 0 ≤ total → ∃ after, total? shown = some after ∧ 0 ≤ after

/-- A count leaves room for some items to be hidden. -/
inductive LeavesRoom (hidden : Nat) : Int → Prop
  | zero : LeavesRoom hidden 0
  | positive {total : Int} (positive : 0 < total) (enough : hidden ≤ total) : LeavesRoom hidden total
  | negative {total : Int} (negative : total < 0) (above : Text.int64Min + hidden ≤ total) : LeavesRoom hidden total

/-! ## Words -/

theorem int64?_eq_some_iff {v : Value} {n : Int} : v.int64? = some n ↔ v = .num (.int n) ∧ FitsWord n := by
  cases v with
  | num number =>
    cases number with
    | int m =>
      simp only [Value.int64?, FitsWord, Option.ite_none_right_eq_some, Option.some.injEq, Value.num.injEq,
        Number.int.injEq]
      constructor
      · rintro ⟨range, rfl⟩; exact ⟨rfl, range⟩
      · rintro ⟨rfl, range⟩; exact ⟨range, rfl⟩
    | float bits => simp [Value.int64?]
  | _ => simp [Value.int64?]

theorem fitsWord_of_total? {body : Value} {total : Int} (counted : total? body = some total) : FitsWord total := by
  obtain ⟨v, -, word⟩ := Option.bind_eq_some_iff.mp counted
  exact (int64?_eq_some_iff.mp word).2

theorem fitsWord_sub_iff {total : Int} {hidden : Nat} (word : FitsWord total) :
    FitsWord (total - hidden) ↔ Text.int64Min + hidden ≤ total := by
  simp only [FitsWord] at *
  omega

/-- A count of 64 bits can always go down by nothing. -/
theorem fitsWord_sub_zero {total : Int} (word : FitsWord total) : FitsWord (total - (0 : Nat)) := by
  simpa using word

/-! ## How many items are hidden -/

section
variable {ctx : Context} {entries : List Entry} {view : Option View} {mainItem : Option String} {body : Value}
  {items : List Value}

theorem hiddenCount_of_unlisted (unlisted : items? body = none) : hiddenCount ctx entries view mainItem body = 0 := by
  rw [hiddenCount, unlisted]
  rfl

open Classical in
/-- Without rules nothing is hidden. -/
theorem hiddenCount_nil (ctx : Context) (view : Option View) (mainItem : Option String) (body : Value) :
    hiddenCount ctx [] view mainItem body = 0 := by
  refine List.countP_eq_zero.mpr fun item _ hidden => ?_
  obtain ⟨-, -, -, u, ⟨e, member, -⟩, -⟩ := of_decide_eq_true hidden
  exact absurd member List.not_mem_nil

open Classical in
theorem hiddenCount_of_listed (listed : items? body = some items) :
    hiddenCount ctx entries view mainItem body =
      items.length - (items.filter (staysVisible ctx (applicableEntries ctx entries view mainItem))).length := by
  have parts := List.length_eq_countP_add_countP (staysVisible ctx (applicableEntries ctx entries view mainItem))
    (l := items)
  have hidden : (fun item => decide (Hidden ctx entries view mainItem item)) =
      fun item => decide (¬ staysVisible ctx (applicableEntries ctx entries view mainItem) item = true) := by
    funext item
    refine decide_eq_decide.mpr ?_
    rw [staysVisible_iff, not_not]
  rw [hiddenCount, listed, Option.getD_some, hidden, ← List.countP_eq_length_filter]
  omega

/-! ## The count of a listing -/

theorem total?_insert_items (items : List Value) (ms : Members) :
    total? (.obj (Members.insert itemsKey (.arr items) ms)) = total? (.obj ms) := by
  simp [total?, Value.get?, Members.get?_insert, itemsKey]

theorem total?_insert_total {total : Int} (word : FitsWord total) (ms : Members) :
    total? (.obj (Members.insert totalKey (.int total) ms)) = some total := by
  rw [total?, Value.get?, Members.get?_insert, if_pos (show totalKey = "TotalRecordCount" from rfl)]
  exact int64?_eq_some_iff.mpr ⟨rfl, word⟩

/-- What becomes of a count, step by step: nothing is hidden in a body without items. -/
theorem countAfter_hide (ctx : Context) (entries : List Entry) (view : Option View) (mainItem : Option String)
    {total : Int} (counted : total? body = some total) :
    CountAfter total (hiddenCount ctx entries view mainItem body) (hide ctx entries view mainItem body).1
      (hide ctx entries view mainItem body).2 := by
  cases listed : items? body with
  | none =>
    rw [hide_of_unlisted listed, hiddenCount_of_unlisted listed]
    by_cases zero : total = 0
    · exact .zero zero (zero ▸ counted)
    · exact .down zero (fitsWord_sub_zero (fitsWord_of_total? counted)) (by simpa using counted)
  | some items =>
    obtain ⟨ms, rfl⟩ := exists_members_of_items? listed
    rw [hide_of_listed listed rfl, hiddenCount_of_listed listed]
    generalize items.filter _ = kept
    have counted' : total? (.obj (Members.insert itemsKey (.arr kept) ms)) = some total :=
      (total?_insert_items kept ms).trans counted
    have reduces := reduces_reduceTotal (items.length - kept.length) (Members.insert itemsKey (.arr kept) ms)
    generalize reduceTotal (items.length - kept.length) (Members.insert itemsKey (.arr kept) ms) = reduced at reduces ⊢
    cases reduces with
    | uncounted none => cases none.symm.trans counted'
    | zero counted'' =>
      obtain rfl := Option.some.inj (counted'.symm.trans counted'')
      exact .zero rfl counted''
    | down counted'' other fits =>
      obtain rfl := Option.some.inj (counted'.symm.trans counted'')
      exact .down other fits (total?_insert_total fits _)
    | overflow counted'' other exceeds =>
      obtain rfl := Option.some.inj (counted'.symm.trans counted'')
      exact .overflow other exceeds

/-- Nothing but a count that overflows keeps hiding from its end. -/
theorem hide_overflows_iff {cause : CountOverflow} :
    (hide ctx entries view mainItem body).2 = .error cause ↔
      ∃ total, total? body = some total ∧ cause = ⟨total, hiddenCount ctx entries view mainItem body⟩ ∧ total ≠ 0 ∧
        ¬ FitsWord (total - hiddenCount ctx entries view mainItem body) := by
  constructor
  · intro aborted
    cases counted : total? body with
    | some total =>
      have after := countAfter_hide ctx entries view mainItem counted
      rw [aborted] at after
      cases after with
      | overflow other exceeds => exact ⟨total, rfl, rfl, other, exceeds⟩
    | none =>
      cases listed : items? body with
      | none =>
        rw [hide_of_unlisted listed] at aborted
        cases aborted
      | some items =>
        obtain ⟨ms, rfl⟩ := exists_members_of_items? listed
        rw [hide_of_listed listed rfl] at aborted
        generalize items.filter _ = kept at aborted
        have reduces := reduces_reduceTotal (items.length - kept.length) (Members.insert itemsKey (.arr kept) ms)
        generalize reduceTotal _ _ = reduced at reduces aborted
        cases reduces with
        | overflow counted' => cases counted'.symm.trans ((total?_insert_items kept ms).trans counted)
        | uncounted | zero | down => cases aborted
  · rintro ⟨total, counted, rfl, other, exceeds⟩
    have after := countAfter_hide ctx entries view mainItem counted
    generalize (hide ctx entries view mainItem body).2 = result at after ⊢
    cases after with
    | zero zero => exact absurd zero other
    | down _ fits => exact absurd fits exceeds
    | overflow => rfl

end

/-- A count that is brought down comes down safely exactly when it leaves room for what is hidden. -/
theorem CountAfter.safe_iff {total : Int} {hidden : Nat} {shown : Value} {result : Except CountOverflow HideOutcome}
    (after : CountAfter total hidden shown result) (word : FitsWord total) :
    ComesDownSafely total shown result ↔ LeavesRoom hidden total := by
  constructor
  · rintro ⟨returns, nonneg⟩
    cases after with
    | zero zero left =>
      rw [zero]
      exact .zero
    | down other fits left =>
      rcases Int.lt_or_gt_of_ne other with negative | positive
      · exact .negative negative ((fitsWord_sub_iff word).mp fits)
      · obtain ⟨after, left', nonneg⟩ := nonneg (by omega)
        obtain rfl := Option.some.inj (left.symm.trans left')
        exact .positive positive (by omega)
    | overflow other exceeds => exact absurd rfl (returns _)
  · intro room
    have fits : total ≠ 0 → FitsWord (total - hidden) := by
      intro other
      cases room with
      | zero => exact absurd rfl other
      | positive positive enough => exact (fitsWord_sub_iff word).mpr (by rw [Text.int64Min]; omega)
      | negative negative above => exact (fitsWord_sub_iff word).mpr above
    cases after with
    | zero zero left => exact ⟨nofun, fun _ => ⟨0, left, Int.le_refl 0⟩⟩
    | down other _ left =>
      refine ⟨nofun, fun nonneg => ⟨_, left, ?_⟩⟩
      cases room with
      | zero => exact absurd rfl other
      | positive positive enough => omega
      | negative negative above => omega
    | overflow other exceeds => exact absurd (fits other) exceeds

/-- Hiding brings a count down safely exactly when the count leaves room for what is hidden: it is zero, it
is positive and at least the number of hidden items, or it is negative and that far above the least word.
A count of zero stays, any other goes down by that number when the difference is a word, and when it is
none the run is aborted. -/
theorem total?_hide_safe_iff (ctx : Context) (entries : List Entry) (view : Option View) (mainItem : Option String)
    {body : Value} {total : Int} (counted : total? body = some total) :
    ∃ shown result, hide ctx entries view mainItem body = (shown, result) ∧
      CountAfter total (hiddenCount ctx entries view mainItem body) shown result ∧
      (ComesDownSafely total shown result ↔ LeavesRoom (hiddenCount ctx entries view mainItem body) total) := by
  have after := countAfter_hide ctx entries view mainItem counted
  exact ⟨_, _, rfl, after, after.safe_iff (fitsWord_of_total? counted)⟩

/-- A listing of two items in one directory. -/
def twoBelow (total : Int) : Value :=
  .obj [("Items", .arr [.obj [("Path", .str "/x/a")], .obj [("Path", .str "/x/b")]]), ("TotalRecordCount", .int total)]

/-- Hides whatever lies in that directory. -/
def hideBelow : List Entry :=
  [.bare ⟨.filePath, .known (.plain .startsWith), .one (.literal "/x"), []⟩]

theorem hiddenCount_twoBelow (total : Int) : hiddenCount Context.empty hideBelow none none (twoBelow total) = 2 :=
  (hiddenCount_of_listed rfl).trans rfl

/-- Two items are hidden, and forty leaves room for them. -/
theorem total?_hide_safe_iff_forty :
    total? (twoBelow 40) = some 40 ∧
      ∃ shown, hide Context.empty hideBelow none none (twoBelow 40) = (shown, .ok ⟨2, 0⟩) ∧
        total? shown = some 38 ∧ ComesDownSafely 40 shown (.ok ⟨2, 0⟩) := by
  have counted : total? (twoBelow 40) = some 40 := rfl
  obtain ⟨shown, result, ran, after, safe⟩ := total?_hide_safe_iff Context.empty hideBelow none none counted
  have done : result = .ok ⟨2, 0⟩ := congrArg Prod.snd ran.symm
  subst done
  rw [hiddenCount_twoBelow] at after safe
  have left : total? shown = some 38 := by
    cases after with
    | zero zero => cases zero
    | down _ _ left => exact left
  exact ⟨counted, shown, ran, left, safe.mpr (.positive (by decide) (by decide))⟩

/-- Every body with a count comes out of hiding with a property. -/
def EveryUpdate (P : Int → Value → Except CountOverflow HideOutcome → Prop) : Prop :=
  ∀ ctx entries view mainItem body total, total? body = some total →
    P total (hide ctx entries view mainItem body).1 (hide ctx entries view mainItem body).2

/-- The least word has no room for two hidden items, and a count of one goes below zero. -/
theorem not_everyUpdate_safe :
    ¬ EveryUpdate (fun _ _ result => ∀ overflow, result ≠ .error overflow) ∧
      ¬ EveryUpdate (fun total shown _ => 0 ≤ total → ∃ after, total? shown = some after ∧ 0 ≤ after) := by
  constructor
  · intro always
    exact always Context.empty hideBelow none none (twoBelow Text.int64Min) _ rfl ⟨Text.int64Min, 2⟩ rfl
  · intro always
    obtain ⟨after, left, nonneg⟩ := always Context.empty hideBelow none none (twoBelow 1) 1 rfl (by decide)
    have below : total? (hide Context.empty hideBelow none none (twoBelow 1)).1 = some (-1) := rfl
    obtain rfl := Option.some.inj (below.symm.trans left)
    exact absurd nonneg (by decide)

end StreamPolicy.Listing
