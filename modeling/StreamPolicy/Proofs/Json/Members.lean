import Mathlib.Data.List.Induction
import Mathlib.Data.List.Nodup
import StreamPolicy.Json.Printer
import StreamPolicy.Json.Record

/-!
# Members of objects

What is put at a key is found there and changes nothing at another key, so an object of members in any
order has the last value of each key, and has each key once: it is read as a record. The compact text of an
object holds the compact text of each value that can be found in it.
-/

namespace StreamPolicy.Json

theorem Members.get?_insert (k key : String) (v : Value) (ms : Members) :
    get? k (insert key v ms) = if key = k then some v else get? k ms := by
  induction ms with
  | nil => rfl
  | cons m ms ih =>
    obtain ⟨k', v'⟩ := m
    by_cases same : k' = key
    · subst same
      by_cases wanted : k' = k
      · simp [insert, get?, wanted]
      · simp [insert, get?, wanted]
    · by_cases before : key < k'
      · simp [insert, get?, same, before]
      · simp only [insert, same, before, if_false, get?, ih]
        by_cases wanted : k' = k
        · have other : key ≠ k := fun equal => same (wanted.trans equal.symm)
          simp [wanted, other]
        · simp [wanted]

theorem Members.eq_or_mem_of_mem_insert {key : String} {v : Value} {ms : Members} {m : String × Value}
    (member : m ∈ insert key v ms) : m = (key, v) ∨ m ∈ ms := by
  induction ms with
  | nil => exact .inl (List.mem_singleton.mp member)
  | cons first ms ih =>
    obtain ⟨k, w⟩ := first
    rw [insert] at member
    split at member
    · exact (List.mem_cons.mp member).imp_right (List.mem_cons_of_mem _)
    split at member
    · exact List.mem_cons.mp member
    · rcases List.mem_cons.mp member with old | later
      · exact .inr (old ▸ List.mem_cons_self)
      · exact (ih later).imp_right (List.mem_cons_of_mem _)

theorem Members.ofList_concat (ms : List (String × Value)) (m : String × Value) :
    ofList (ms ++ [m]) = insert m.1 m.2 (ofList ms) := by
  rw [ofList, List.foldl_append]
  rfl

theorem Members.mem_of_mem_ofList {ms : List (String × Value)} {m : String × Value} (member : m ∈ ofList ms) :
    m ∈ ms := by
  induction ms using List.reverseRecOn with
  | nil => exact member
  | append_singleton ms last ih =>
    rw [ofList_concat] at member
    rcases eq_or_mem_of_mem_insert member with rfl | early
    · exact List.mem_append_right ms (List.mem_singleton_self _)
    · exact List.mem_append_left [last] (ih early)

theorem Members.ascending_insert {ms : Members} (ascending : ms.Pairwise fun a b => a.1 < b.1) (key : String)
    (v : Value) : (insert key v ms).Pairwise fun a b => a.1 < b.1 := by
  induction ms with
  | nil => exact List.pairwise_singleton _ _
  | cons first ms ih =>
    obtain ⟨k, w⟩ := first
    obtain ⟨above, later⟩ := List.pairwise_cons.mp ascending
    rw [insert]
    split
    next same =>
      subst same
      exact List.pairwise_cons.mpr ⟨above, later⟩
    next other =>
      split
      next before =>
        refine List.pairwise_cons.mpr ⟨?_, ascending⟩
        rintro m (_ | ⟨_, member⟩)
        · exact before
        · exact String.lt_trans before (above m member)
      next behind =>
        have front : k < key := Std.lt_of_le_of_ne (String.not_lt.mp behind) other
        refine List.pairwise_cons.mpr ⟨fun m member => ?_, ih later⟩
        rcases eq_or_mem_of_mem_insert member with rfl | old
        · exact front
        · exact above m old

theorem Members.mem_of_get? {key : String} {v : Value} {ms : Members} (found : get? key ms = some v) : (key, v) ∈ ms := by
  induction ms with
  | nil => cases found
  | cons first ms ih =>
    obtain ⟨k, w⟩ := first
    by_cases same : k = key
    · have value : w = v := by simpa [get?, same] using found
      rw [same, value]
      exact List.mem_cons_self
    · exact List.mem_cons_of_mem _ (ih (by simpa [get?, same] using found))

theorem Members.not_lt_of_get? {key k : String} {v : Value} {ms : Members} (found : get? key ms = some v)
    (above : ∀ m ∈ ms, k < m.1) : ¬ key < k :=
  fun before => String.lt_asymm before (above _ (mem_of_get? found))

/-- To put the value of a key at that key changes nothing. -/
theorem Members.insert_of_get? {key : String} {v : Value} {ms : Members} (found : get? key ms = some v)
    (ascending : ms.Pairwise fun a b => a.1 < b.1) : insert key v ms = ms := by
  induction ms with
  | nil => cases found
  | cons first ms ih =>
    obtain ⟨k, w⟩ := first
    obtain ⟨above, later⟩ := List.pairwise_cons.mp ascending
    by_cases same : k = key
    · have value : w = v := by simpa [get?, same] using found
      simp [insert, same, value]
    · have found' : get? key ms = some v := by simpa [get?, same] using found
      simp [insert, same, not_lt_of_get? found' above, ih found' later]

/-- Putting another value at a key that is there leaves the keys as they are. -/
theorem Members.map_fst_insert {key : String} {v w : Value} {ms : Members} (found : get? key ms = some v)
    (ascending : ms.Pairwise fun a b => a.1 < b.1) : (insert key w ms).map Prod.fst = ms.map Prod.fst := by
  induction ms with
  | nil => cases found
  | cons first ms ih =>
    obtain ⟨k, w'⟩ := first
    obtain ⟨above, later⟩ := List.pairwise_cons.mp ascending
    by_cases same : k = key
    · simp [insert, same]
    · have found' : get? key ms = some v := by simpa [get?, same] using found
      simp [insert, same, not_lt_of_get? found' above, ih found' later]

theorem Members.ascending_ofList (ms : List (String × Value)) : (ofList ms).Pairwise fun a b => a.1 < b.1 := by
  induction ms using List.reverseRecOn with
  | nil => exact List.Pairwise.nil
  | append_singleton ms last ih =>
    rw [ofList_concat]
    exact ascending_insert ih last.1 last.2

theorem Members.nodup_keys_ofList (ms : List (String × Value)) : ((ofList ms).map Prod.fst).Nodup := by
  rw [List.Nodup, List.pairwise_map]
  refine (ascending_ofList ms).imp fun before same => ?_
  rw [same] at before
  exact String.lt_irrefl _ before

/-- Of the values at one key the last stays. -/
theorem Value.get?_object (k : String) (ms : List (String × Value)) :
    (object ms).get? k = (ms.reverse.find? fun m => m.1 = k).map Prod.snd := by
  show Members.get? k (Members.ofList ms) = _
  induction ms using List.reverseRecOn with
  | nil => rfl
  | append_singleton ms last ih =>
    rw [Members.ofList_concat, Members.get?_insert, List.reverse_concat, List.find?_cons, ih]
    by_cases here : last.1 = k <;> simp [here]

/-! ## Records -/

/-- An object that is put in order has each key once. -/
theorem Record.eachOnce_ofList (names : List String) (ms : List (String × Value)) :
    eachOnce names (Members.ofList ms) = true := by
  rw [eachOnce, List.all_eq_true]
  intro name _
  have once := List.nodup_iff_count_le_one.mp (Members.nodup_keys_ofList ms) name
  have named : ((· == name) ∘ Prod.fst : String × Value → Bool) = fun m => decide (m.1 = name) :=
    funext fun m => beq_eq_decide m.1 name
  rw [List.count, List.countP_map, named, List.countP_eq_length_filter] at once
  exact decide_eq_true once

theorem Record.ofValue?_object (names : List String) (ms : List (String × Value)) :
    ofValue? names (.object ms) = some ⟨Members.ofList ms, true⟩ := by
  rw [Value.object, ofValue?, if_pos (eachOnce_ofList names ms)]

theorem Value.list?_map {α : Type} {read : Value → Option α} {write : α → Value} {xs : List α}
    (back : ∀ x ∈ xs, read (write x) = some x) : Value.list? read (.arr (xs.map write)) = some xs := by
  rw [Value.list?]
  induction xs with
  | nil => rfl
  | cons x xs ih =>
    rw [List.forall_mem_cons] at back
    simp [back.1, ih back.2]

theorem Record.get?_ofList (named : Bool) (ms : List (String × Value)) (key : String) :
    Record.get? ⟨Members.ofList ms, named⟩ key = (ms.reverse.find? fun m => m.1 = key).map Prod.snd :=
  Value.get?_object key ms

/-! ## Texts of objects -/

theorem compactMembers_cons (k : String) (v : Value) (ms : Members) :
    quoteChars k.toList ++ ':' :: v.compactChars <+: compactMembers ((k, v) :: ms) := by
  cases ms with
  | nil => exact List.prefix_refl _
  | cons m ms => exact ⟨',' :: compactMembers (m :: ms), by simp [compactMembers]⟩

theorem compactMembers_suffix (m : String × Value) (ms : Members) : compactMembers ms <:+ compactMembers (m :: ms) := by
  obtain ⟨k, v⟩ := m
  cases ms with
  | nil => exact List.nil_suffix
  | cons m' ms => exact ⟨quoteChars k.toList ++ ':' :: (v.compactChars ++ [',']), by simp [compactMembers]⟩

/-- A value that is found among some members stands in their text. -/
theorem compactChars_infix_of_get? {key : String} {v : Value} {ms : Members} (found : Members.get? key ms = some v) :
    v.compactChars <:+: compactMembers ms := by
  induction ms with
  | nil => cases found
  | cons m ms ih =>
    obtain ⟨k, v'⟩ := m
    by_cases here : k = key
    · have same : v' = v := by simpa [Members.get?, here] using found
      subst same
      have value : v'.compactChars <:+: quoteChars k.toList ++ ':' :: v'.compactChars :=
        ⟨quoteChars k.toList ++ [':'], [], by simp⟩
      exact value.trans (compactMembers_cons k v' ms).isInfix
    · have later : Members.get? key ms = some v := by simpa [Members.get?, here] using found
      exact (ih later).trans (compactMembers_suffix _ ms).isInfix

theorem compactChars_infix_obj {key : String} {v : Value} {ms : Members} (found : Members.get? key ms = some v) :
    v.compactChars <:+: (Value.obj ms).compactChars := by
  have inside : compactMembers ms <:+: (Value.obj ms).compactChars := ⟨['\x7b'], ['\x7d'], by simp [Value.compactChars]⟩
  exact (compactChars_infix_of_get? found).trans inside

end StreamPolicy.Json
