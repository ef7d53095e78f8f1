import StreamPolicy.Proofs.Request.RemoteAddr

/-!
# Expressions of several groups

The value of an expression is the texts that its paths lead to, joined. No such text is empty, so the
empty text is the value of exactly the expressions that lead to nothing, and the value of a joined
expression is the join of what the values of its parts leave after the empty ones.
-/

namespace StreamPolicy

open StreamPolicy.Json

/-! ## No value is written as the empty text -/

theorem Decimal.pointed_ne_nil (ds : List Char) (whole : Int) : Decimal.pointed ds whole ≠ [] := by
  rw [pointed]
  split <;> simp

theorem Decimal.Layout.text_ne_nil (l : Decimal.Layout) (s : Decimal.Scientific) : l.text s ≠ [] := by
  rw [text]
  split
  next => exact pointed_ne_nil _ _
  next => simp

theorem Text.ofInt_ne_empty (n : Int) : Text.ofInt n ≠ "" := by
  have digits : (Nat.repr n.natAbs).toList ≠ [] := by
    rw [Nat.toList_repr]
    exact Nat.toDigits_ne_nil
  rw [Text.ofInt, ne_eq, ← String.toList_inj]
  split
  next => simp
  next => exact digits

theorem Json.Number.text_ne_empty (n : Number) : n.text ≠ "" := by
  cases n with
  | int n => exact Text.ofInt_ne_empty n
  | float bits =>
    rw [text]
    split
    next =>
      rw [Decimal.Layout.ofBits, ne_eq, ← String.toList_inj, String.toList_ofList]
      by_cases zero : Decimal.isZero bits = true
      · simp [zero]
      · simp [zero, Decimal.Layout.text_ne_nil]
    next => decide

namespace Expression

theorem truthy?_ne_empty {v : Value} {text : String} (truthy : truthy? v = some text) : text ≠ "" := by
  have written (rest : List Char) (c : Char) : String.ofList (c :: rest) ≠ "" := by
    rw [ne_eq, ← String.toList_inj]
    simp
  cases v with
  | null => cases truthy
  | bool b =>
    cases b with
    | false => cases truthy
    | true =>
      cases truthy
      decide
  | num n =>
    simp only [truthy?, Option.ite_none_left_eq_some, Option.some.injEq] at truthy
    rw [← truthy.2]
    exact n.text_ne_empty
  | str s =>
    simp only [truthy?, Option.ite_none_left_eq_some, Option.some.injEq] at truthy
    rw [← truthy.2]
    exact truthy.1
  | arr items =>
    cases truthy
    exact written _ _
  | obj ms =>
    cases truthy
    exact written _ _

/-! ## The texts of an expression -/

variable {root : Value}

/-- The texts that the paths of an expression lead to, with the usual separators. -/
def texts (root : Value) (expression : String) : List String :=
  values root expression propertySeparator groupSeparator

theorem empty_not_mem_texts (expression : String) : "" ∉ texts root expression := by
  intro member
  obtain ⟨path, -, valued⟩ := List.mem_filterMap.mp member
  obtain ⟨v, -, truthy⟩ := Option.bind_eq_some_iff.mp valued
  exact truthy?_ne_empty truthy rfl

/-- The texts of two expressions with the group separator between them are those of the one and those of
the other. -/
theorem texts_append (root : Value) (e₁ e₂ : String) :
    texts root (e₁ ++ groupSeparator ++ e₂) = texts root e₁ ++ texts root e₂ := by
  rw [texts, values, Text.split_append rfl, List.filter_append, List.filterMap_append]
  rfl

theorem texts_of_blank {expression : String} (blank : Text.isBlankText expression = true) :
    texts root expression = [] := by
  rw [texts, values, List.filterMap_eq_nil_iff]
  intro path kept
  obtain ⟨listed, visible⟩ := List.mem_filter.mp kept
  simp [Source.isBlankText_of_mem_split blank listed] at visible

theorem isBlankText_append (e₁ e₂ : String) : Text.isBlankText (e₁ ++ groupSeparator ++ e₂) = false := by
  have colon : ':' ∈ (e₁ ++ groupSeparator ++ e₂).toList := by simp [groupSeparator]
  rw [Text.isBlankText, List.all_eq_false]
  exact ⟨':', colon, by decide⟩

theorem resolveUsual_eq (root : Value) (expression : String) :
    resolveUsual (some root) expression =
      .ok (if Text.isBlankText expression then none else some (Text.join groupSeparator (texts root expression))) := by
  have separators : ¬ (propertySeparator = "" ∨ groupSeparator = "") := by decide
  rw [resolveUsual, resolve]
  by_cases blank : Text.isBlankText expression = true
  · rw [if_pos blank, if_pos blank]
  · rw [if_neg blank, if_neg separators, if_neg blank, texts]

/-! ## Values and their joins -/

/-- The value of an expression, the empty text for a blank one. -/
def valueText (root : Value) (expression : String) : String :=
  match resolveUsual (some root) expression with
  | .ok (some text) => text
  | _ => ""

/-- Those of some texts that are not empty, with the group separator between each two. -/
def joinPresent (texts : List String) : String :=
  Text.join groupSeparator (texts.filter (· ≠ ""))

theorem valueText_eq (root : Value) (expression : String) :
    valueText root expression = Text.join groupSeparator (texts root expression) := by
  rw [valueText, resolveUsual_eq]
  by_cases blank : Text.isBlankText expression = true
  · simp [blank, texts_of_blank blank, Text.join]
  · simp [blank]

/-- Of joined texts none of which is empty, only the joins of no text at all are left out. -/
theorem joinPresent_map_join {groups : List (List String)} (present : ∀ group ∈ groups, "" ∉ group) :
    joinPresent (groups.map (Text.join groupSeparator)) = Text.join groupSeparator groups.flatten := by
  have left : (groups.map (Text.join groupSeparator)).filter (· ≠ "") =
      (groups.filter (· ≠ [])).map (Text.join groupSeparator) := by
    rw [List.filter_map]
    congr 1
    refine List.filter_congr fun group member => ?_
    simp [Text.join_eq_empty_iff (present group member)]
  have inhabited : ∀ group ∈ groups.filter (· ≠ []), group ≠ [] := by simp
  rw [joinPresent, left, Text.join_map_join inhabited, List.flatten_filter_ne_nil]

theorem texts_join (root : Value) (expressions : List String) :
    texts root (Text.join groupSeparator expressions) = (expressions.map (texts root)).flatten := by
  induction expressions with
  | nil => exact texts_of_blank rfl
  | cons e expressions ih =>
    by_cases last : expressions = []
    · simp [last, Text.join]
    · have whole : Text.join groupSeparator (e :: expressions) =
          e ++ groupSeparator ++ Text.join groupSeparator expressions :=
        String.intercalate_cons_of_ne_nil last
      rw [whole, texts_append, ih, List.map_cons, List.flatten_cons]

theorem valueText_join (root : Value) (expressions : List String) :
    valueText root (Text.join groupSeparator expressions) = joinPresent (expressions.map (valueText root)) := by
  have values : expressions.map (valueText root) = (expressions.map (texts root)).map (Text.join groupSeparator) := by
    simp [valueText_eq]
  have present : ∀ group ∈ expressions.map (texts root), "" ∉ group := by
    simpa using fun e _ => empty_not_mem_texts e
  rw [valueText_eq, texts_join, values, joinPresent_map_join present]

/-- Every expression has a value or is blank, two expressions with the group separator between them have
the join of what is not empty of their values, and so has any number of them. -/
theorem resolveUsual_distributes (root : Value) :
    (∀ e, ∃ value, resolveUsual (some root) e = .ok value ∧ valueText root e = value.getD "") ∧
      (∀ e₁ e₂, resolveUsual (some root) (e₁ ++ groupSeparator ++ e₂) =
        .ok (some (joinPresent [valueText root e₁, valueText root e₂]))) ∧
      ∀ es, valueText root (Text.join groupSeparator es) = joinPresent (es.map (valueText root)) := by
  refine ⟨fun e => ?_, fun e₁ e₂ => ?_, valueText_join root⟩
  · refine ⟨_, resolveUsual_eq root e, ?_⟩
    rw [valueText, resolveUsual_eq]
    by_cases blank : Text.isBlankText e = true <;> simp [blank]
  · have pair : Text.join groupSeparator [e₁, e₂] = e₁ ++ groupSeparator ++ e₂ := by simp [Text.join]
    have joined := valueText_join root [e₁, e₂]
    rw [pair, valueText_eq] at joined
    rw [resolveUsual_eq, isBlankText_append, joined]
    rfl

end Expression

end StreamPolicy
