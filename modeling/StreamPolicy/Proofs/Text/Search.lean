import Mathlib.Data.List.Infix
import Mathlib.Data.List.TakeWhile
import StreamPolicy.Text.Search

/-!
# Finding and splitting text

`cut?` finds a needle exactly where the text holds it, and at its first place. Splitting at one
character is then splitting as the standard library knows it, and a text split at a character and
joined again is the text.
-/

namespace StreamPolicy.Text

theorem after?_append (p r : List Char) : after? p (p ++ r) = some r :=
  after?_eq_some_iff.mpr rfl

theorem after?_isSome_iff {p s : List Char} : (after? p s).isSome ↔ p <+: s := by
  rw [Option.isSome_iff_exists]
  constructor
  · rintro ⟨r, found⟩
    exact ⟨r, (after?_eq_some_iff.mp found).symm⟩
  · rintro ⟨r, rfl⟩
    exact ⟨r, after?_append p r⟩

/-! ## The first place of a needle -/

theorem occurs_iff_infix {needle s : List Char} : occurs needle s = true ↔ needle <:+: s := by
  constructor
  · intro found
    obtain ⟨⟨a, b⟩, cut⟩ := Option.isSome_iff_exists.mp found
    exact ⟨a, b, (eq_of_cut? cut).symm⟩
  · intro inside
    induction s with
    | nil =>
      have empty : needle = [] := List.eq_nil_of_infix_nil inside
      simp [occurs, cut?, empty, after?]
    | cons c s ih =>
      rw [occurs, cut?]
      cases here : after? needle (c :: s) with
      | some r => rfl
      | none =>
        rcases List.infix_cons_iff.mp inside with front | later
        · simp [← after?_isSome_iff, here] at front
        · simpa [occurs] using ih later

theorem cut?_eq_none_iff {needle s : List Char} : cut? needle s = none ↔ ¬ needle <:+: s := by
  rw [← occurs_iff_infix, occurs, Option.not_isSome_iff_eq_none]

theorem contains_iff {s needle : String} : contains s needle = true ↔ needle.toList <:+: s.toList :=
  occurs_iff_infix

/-- No occurrence of a needle starts before the one where a text is cut. -/
theorem length_le_of_cut? {needle s a b a' b' : List Char} (cut : cut? needle s = some (a, b))
    (other : s = a' ++ needle ++ b') : a.length ≤ a'.length := by
  induction s generalizing a a' with
  | nil =>
    obtain ⟨r, _, equal⟩ := Option.map_eq_some_iff.mp cut
    cases equal
    exact Nat.zero_le _
  | cons c s ih =>
    rw [cut?] at cut
    cases here : after? needle (c :: s) with
    | some r =>
      simp only [here, Option.some.injEq, Prod.mk.injEq] at cut
      simp [← cut.1]
    | none =>
      simp only [here, Option.map_eq_some_iff] at cut
      obtain ⟨⟨a₀, b₀⟩, cut, equal⟩ := cut
      cases equal
      cases a' with
      | nil =>
        rw [List.nil_append] at other
        simp [other, after?_append] at here
      | cons d a' =>
        obtain ⟨rfl, rest⟩ := List.cons_eq_cons.mp other
        exact Nat.succ_le_succ (ih cut rest)

/-- A text divided at the first place of a needle. -/
structure DividedAt (needle s before rest : List Char) : Prop where
  whole : s = before ++ needle ++ rest
  first : ∀ before' rest', s = before' ++ needle ++ rest' → before.length ≤ before'.length

theorem DividedAt.unique {needle s a b a' b' : List Char} (divided : DividedAt needle s a b)
    (divided' : DividedAt needle s a' b') : a = a' ∧ b = b' := by
  have length : a.length = a'.length :=
    Nat.le_antisymm (divided.first a' b' divided'.whole) (divided'.first a b divided.whole)
  have same := divided.whole.symm.trans divided'.whole
  rw [List.append_assoc, List.append_assoc] at same
  obtain ⟨front, back⟩ := List.append_inj same length
  exact ⟨front, List.append_cancel_left back⟩

/-- A text is cut where a needle occurs first. -/
theorem cut?_eq_some_iff {needle s a b : List Char} : cut? needle s = some (a, b) ↔ DividedAt needle s a b := by
  have divides {a b : List Char} (cut : cut? needle s = some (a, b)) : DividedAt needle s a b :=
    ⟨eq_of_cut? cut, fun _ _ other => length_le_of_cut? cut other⟩
  refine ⟨divides, fun divided => ?_⟩
  cases cut : cut? needle s with
  | none => exact absurd ⟨a, b, divided.whole.symm⟩ (cut?_eq_none_iff.mp cut)
  | some parts =>
    obtain ⟨rfl, rfl⟩ := (divides cut).unique divided
    rfl

/-- A needle is not found where its first character does not occur. -/
theorem cut?_append_of_not_mem {x : Char} {needle a : List Char} (absent : x ∉ a) (b : List Char) :
    cut? (x :: needle) (a ++ b) = (cut? (x :: needle) b).map fun (before, rest) => (a ++ before, rest) := by
  induction a with
  | nil => simp
  | cons c a ih =>
    simp only [List.mem_cons, not_or] at absent
    rw [List.cons_append, cut?, after?, if_neg absent.1, ih absent.2, Option.map_map]
    rfl

/-- What stands behind a text that has the needle does not move its first place. -/
theorem cut?_append {needle a l r : List Char} (cut : cut? needle a = some (l, r)) (b : List Char) :
    cut? needle (a ++ b) = some (l, r ++ b) := by
  have divided := cut?_eq_some_iff.mp cut
  rw [cut?_eq_some_iff]
  refine ⟨by simp [divided.whole], fun l' r' other => ?_⟩
  by_contra earlier
  -- An earlier place would end inside the text, where the first one is known.
  have inside : l' ++ needle <+: a := by
    have front : l' ++ needle <+: a ++ b := ⟨r', other.symm⟩
    refine List.prefix_of_prefix_length_le front (List.prefix_append a b) ?_
    rw [divided.whole]
    simp only [List.length_append]
    omega
  obtain ⟨r'', split⟩ := inside
  exact earlier (divided.first l' r'' split.symm)

theorem after?_append_cons_eq_none {x : Char} {needle a : List Char} (absent : x ∉ needle) (clear : ¬ needle <:+: a)
    (b : List Char) : after? needle (a ++ x :: b) = none := by
  rw [← Option.not_isSome_iff_eq_none, after?_isSome_iff]
  intro starts
  rcases List.prefix_or_prefix_of_prefix starts (List.prefix_append a (x :: b)) with within | ⟨t, reaches⟩
  · exact clear within.isInfix
  · cases t with
    | nil =>
      rw [List.append_nil] at reaches
      exact clear (reaches ▸ List.infix_refl a)
    | cons y t =>
      rw [← reaches, List.prefix_append_right_inj, List.cons_prefix_cons] at starts
      exact absent (by simp [← reaches, starts.1])

/-- A text without the needle is passed over, together with a character behind it that the needle does not hold. -/
theorem cut?_append_cons_of_not_infix {x : Char} {needle a : List Char} (absent : x ∉ needle) (clear : ¬ needle <:+: a)
    (b : List Char) :
    cut? needle (a ++ x :: b) = (cut? needle b).map fun (before, rest) => (a ++ x :: before, rest) := by
  have none := after?_append_cons_eq_none absent clear b
  induction a with
  | nil =>
    rw [List.nil_append] at none ⊢
    rw [cut?, none]
    rfl
  | cons c a ih =>
    have clear' : ¬ needle <:+: a := fun later => clear (later.trans (List.suffix_cons c a).isInfix)
    rw [List.cons_append] at none ⊢
    rw [cut?, none, ih clear' (after?_append_cons_eq_none absent clear' b), Option.map_map]
    rfl

/-- A needle lies on one side of a character that it does not hold. -/
theorem infix_append_cons_iff {x : Char} {needle : List Char} (absent : x ∉ needle) (a b : List Char) :
    needle <:+: a ++ x :: b ↔ needle <:+: a ∨ needle <:+: b := by
  constructor
  · intro inside
    rcases List.infix_append_iff.mp inside with before | after | ⟨l, r, split, ends, starts⟩
    · exact .inl before
    · rcases List.infix_cons_iff.mp after with front | later
      · rcases List.prefix_cons_iff.mp front with empty | ⟨t, starts, _⟩
        · exact .inl (empty ▸ List.nil_infix)
        · exact absurd (starts ▸ List.mem_cons_self) absent
      · exact .inr later
    · rcases List.prefix_cons_iff.mp starts with empty | ⟨t, reaches, _⟩
      · rw [split, empty, List.append_nil]
        exact .inl ends.isInfix
      · exact absurd (by simp [split, reaches]) absent
  · rintro (before | after)
    · exact before.trans (List.prefix_append a _).isInfix
    · exact after.trans ((List.suffix_cons x b).trans (List.suffix_append a _)).isInfix

/-! ## One character as needle -/

theorem not_mem_of_cut? {x : Char} {s a b : List Char} (cut : cut? [x] s = some (a, b)) : x ∉ a := by
  intro member
  obtain ⟨a₁, a₂, rfl⟩ := List.append_of_mem member
  have earlier : s = a₁ ++ [x] ++ (a₂ ++ [x] ++ b) := by simp [eq_of_cut? cut]
  have before := length_le_of_cut? cut earlier
  simp only [List.length_append, List.length_cons] at before
  omega

theorem cut?_singleton_eq_none_iff {x : Char} {s : List Char} : cut? [x] s = none ↔ x ∉ s := by
  rw [cut?_eq_none_iff, List.singleton_infix_iff]

theorem splitOnce?_eq_none_iff {s : String} {x : Char} : splitOnce? s x = none ↔ x ∉ s.toList := by
  rw [splitOnce?, Option.map_eq_none_iff, cut?_singleton_eq_none_iff]

/-- A text is split at a character in one way: where it occurs first. -/
theorem splitOnce?_eq_some_iff {s a b : String} {x : Char} :
    splitOnce? s x = some (a, b) ↔ s.toList = a.toList ++ x :: b.toList ∧ x ∉ a.toList := by
  rw [splitOnce?, Option.map_eq_some_iff]
  constructor
  · rintro ⟨⟨before, behind⟩, cut, same⟩
    cases same
    simp only [String.toList_ofList]
    exact ⟨by simpa using eq_of_cut? cut, not_mem_of_cut? cut⟩
  · rintro ⟨whole, absent⟩
    have here : cut? [x] (x :: b.toList) = some ([], b.toList) := by simp [cut?, after?]
    refine ⟨(a.toList, b.toList), ?_, by simp⟩
    rw [whole, cut?_append_of_not_mem absent, here]
    simp

theorem takeWhile_ne_append_cons {x : Char} {a : List Char} (absent : x ∉ a) (b : List Char) :
    (a ++ x :: b).takeWhile (· ≠ x) = a := by
  rw [List.takeWhile_append_of_pos, List.takeWhile_cons_of_neg (by simp), List.append_nil]
  intro c member
  exact decide_eq_true fun same => absent (same ▸ member)

theorem dropWhile_ne_append_cons {x : Char} {a : List Char} (absent : x ∉ a) (b : List Char) :
    (a ++ x :: b).dropWhile (· ≠ x) = x :: b := by
  rw [List.dropWhile_append_of_pos, List.dropWhile_cons_of_neg (by simp)]
  intro c member
  exact decide_eq_true fun same => absent (same ▸ member)

theorem takeWhile_ne_of_not_mem {x : Char} {a : List Char} (absent : x ∉ a) : a.takeWhile (· ≠ x) = a := by
  rw [List.takeWhile_eq_self_iff]
  intro c member
  exact decide_eq_true fun same => absent (same ▸ member)

theorem dropWhile_ne_of_not_mem {x : Char} {a : List Char} (absent : x ∉ a) : a.dropWhile (· ≠ x) = [] := by
  rw [List.dropWhile_eq_nil_iff]
  intro c member
  exact decide_eq_true fun same => absent (same ▸ member)

/-- A text is divided at the first place of a character in one way. -/
theorem append_cons_inj {x : Char} {a a' b b' : List Char} (absent : x ∉ a) (absent' : x ∉ a') :
    a ++ x :: b = a' ++ x :: b' ↔ a = a' ∧ b = b' := by
  constructor
  · intro same
    have front := congrArg (List.takeWhile (· ≠ x)) same
    have back := congrArg (List.dropWhile (· ≠ x)) same
    rw [takeWhile_ne_append_cons absent, takeWhile_ne_append_cons absent'] at front
    rw [dropWhile_ne_append_cons absent, dropWhile_ne_append_cons absent'] at back
    exact ⟨front, List.tail_eq_of_cons_eq back⟩
  · rintro ⟨rfl, rfl⟩
    rfl

/-- A text is divided at the last place of a character in one way. -/
theorem append_cons_inj_last {x : Char} {a a' b b' : List Char} (absent : x ∉ b) (absent' : x ∉ b') :
    a ++ x :: b = a' ++ x :: b' ↔ a = a' ∧ b = b' := by
  rw [← List.reverse_inj, List.reverse_append, List.reverse_append, List.reverse_cons, List.reverse_cons,
    List.append_assoc, List.append_assoc, List.singleton_append, List.singleton_append,
    append_cons_inj (mt List.mem_reverse.mp absent) (mt List.mem_reverse.mp absent'), List.reverse_inj,
    List.reverse_inj, and_comm]

theorem splitAll_singleton (x : Char) (s : List Char) : splitAll [x] s = s.splitOn x := by
  rw [splitAll, dif_neg (List.cons_ne_nil x [])]
  split
  next a b cut =>
    have shorter := length_lt_of_cut? (List.cons_ne_nil x []) cut
    rw [splitAll_singleton x b, eq_of_cut? cut, List.append_assoc, List.singleton_append,
      List.splitOn_append_cons_self_of_not_mem (not_mem_of_cut? cut)]
  next whole =>
    rw [List.splitOn_eq_singleton (cut?_singleton_eq_none_iff.mp whole)]
termination_by s.length

theorem split_singleton (s : String) {sep : String} {x : Char} (single : sep.toList = [x]) :
    split s sep = (s.toList.splitOn x).map String.ofList := by
  rw [split, single, splitAll_singleton]

/-- The pieces of two texts with a separator between them are those of the one and those of the other. -/
theorem split_append {sep : String} {x : Char} (single : sep.toList = [x]) (s t : String) :
    split (s ++ sep ++ t) sep = split s sep ++ split t sep := by
  have whole : (s ++ sep ++ t).toList = s.toList ++ x :: t.toList := by simp [single]
  rw [split_singleton _ single, whole, List.splitOn_append_cons_self, List.map_append, ← split_singleton s single,
    ← split_singleton t single]

/-! ## Replacing -/

theorem replaceAll_eq {needle : List Char} (inhabited : needle ≠ []) (by_ s : List Char) :
    replaceAll needle by_ s =
      ((cut? needle s).map fun (before, rest) => before ++ by_ ++ replaceAll needle by_ rest).getD s := by
  rw [replaceAll, dif_neg inhabited]
  split
  next found => rw [found]; rfl
  next absent => rw [absent]; rfl

/-- Replacing goes through the text once: an occurrence at the front is replaced and passed over. -/
theorem replaceAll_cons {needle : List Char} (inhabited : needle ≠ []) (by_ : List Char) (c : Char) (s : List Char) :
    replaceAll needle by_ (c :: s) =
      match after? needle (c :: s) with
      | some rest => by_ ++ replaceAll needle by_ rest
      | none => c :: replaceAll needle by_ s := by
  rw [replaceAll_eq inhabited, cut?]
  cases after? needle (c :: s) with
  | some rest => rfl
  | none =>
    dsimp only
    rw [replaceAll_eq inhabited by_ s]
    cases cut? needle s <;> rfl

theorem replaceAll_of_not_infix {needle s : List Char} (some : needle ≠ []) (absent : ¬ needle <:+: s)
    (by_ : List Char) : replaceAll needle by_ s = s := by
  rw [replaceAll, dif_neg some]
  split
  next a b cut =>
    rw [cut?_eq_none_iff.mpr absent] at cut
    cases cut
  next => rfl

/-- Replacing brings in no other characters than those of the replacement. -/
theorem mem_of_mem_replaceAll {x : Char} {needle by_ : List Char} (some : needle ≠ []) {s : List Char}
    (member : x ∈ replaceAll needle by_ s) : x ∈ by_ ∨ x ∈ s := by
  rw [replaceAll, dif_neg some] at member
  split at member
  next a b cut =>
    have shorter := length_lt_of_cut? some cut
    have whole := eq_of_cut? cut
    rw [List.mem_append, List.mem_append] at member
    rcases member with (before | new) | later
    · exact .inr (by simp [whole, before])
    · exact .inl new
    · rcases mem_of_mem_replaceAll some later with new | old
      · exact .inl new
      · exact .inr (by simp [whole, old])
  next => exact .inr member
termination_by s.length

/-! ## Pieces -/

theorem infix_intercalate {sep piece : List Char} {pieces : List (List Char)} (member : piece ∈ pieces) :
    piece <:+: sep.intercalate pieces := by
  induction pieces with
  | nil => cases member
  | cons first rest ih =>
    by_cases last : rest = []
    · subst last
      rw [List.mem_singleton.mp member, List.intercalate_singleton]
    · rw [List.intercalate_cons_of_ne_nil last]
      rcases List.mem_cons.mp member with same | later
      · subst same
        exact ⟨[], sep ++ sep.intercalate rest, by simp⟩
      · exact (ih later).trans (List.suffix_append _ _).isInfix

theorem infix_of_mem_splitOn {x : Char} {s piece : List Char} (member : piece ∈ s.splitOn x) : piece <:+: s := by
  have inside : piece <:+: [x].intercalate (s.splitOn x) := infix_intercalate member
  rwa [List.intercalate_splitOn] at inside

theorem infix_join {sep piece : String} {pieces : List String} (member : piece ∈ pieces) :
    piece.toList <:+: (join sep pieces).toList := by
  rw [join, String.toList_intercalate]
  exact infix_intercalate (List.mem_map_of_mem member)

theorem join_eq_empty_iff {sep : String} {pieces : List String} (present : "" ∉ pieces) :
    join sep pieces = "" ↔ pieces = [] := by
  cases pieces with
  | nil => simp [join]
  | cons piece pieces =>
    have inside : piece.toList <:+: (join sep (piece :: pieces)).toList := infix_join List.mem_cons_self
    have first : piece ≠ "" := fun empty => present (empty ▸ List.mem_cons_self)
    refine iff_of_false (fun empty => first ?_) (List.cons_ne_nil _ _)
    rw [empty] at inside
    exact String.toList_eq_nil_iff.mp (List.eq_nil_of_infix_nil inside)

/-- Pieces that are joined group by group are joined. -/
theorem join_map_join {sep : String} {groups : List (List String)} (inhabited : ∀ group ∈ groups, group ≠ []) :
    join sep (groups.map (join sep)) = join sep groups.flatten := by
  induction groups with
  | nil => rfl
  | cons group groups ih =>
    obtain ⟨some, others⟩ := List.forall_mem_cons.mp inhabited
    by_cases last : groups = []
    · simp [last, join]
    · have rest : groups.flatten ≠ [] := by
        obtain ⟨next, listed⟩ := List.exists_mem_of_ne_nil groups last
        exact fun none => others next listed (List.flatten_eq_nil_iff.mp none next listed)
      have joined : (groups.map (join sep)) ≠ [] := mt List.map_eq_nil_iff.mp last
      calc join sep ((group :: groups).map (join sep))
          = join sep group ++ sep ++ join sep (groups.map (join sep)) := String.intercalate_cons_of_ne_nil joined
        _ = join sep group ++ sep ++ join sep groups.flatten := by rw [ih others]
        _ = join sep (group :: groups).flatten := (String.intercalate_append_of_ne_nil some rest).symm

end StreamPolicy.Text
