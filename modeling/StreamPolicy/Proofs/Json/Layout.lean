import StreamPolicy.Json.Parser
import StreamPolicy.Json.Printer

/-!
# Layouts

The compact and the pretty text of a value differ in blanks only. A layout says which blanks stand
where, and the two ways of writing are two layouts; so what does not depend on blanks is proved of any
layout.
-/

namespace StreamPolicy.Json

/-- Blanks and nothing else. -/
def Blank (cs : List Char) : Prop :=
  ∀ c ∈ cs, isSpace c = true

theorem skipSpace_append {b : List Char} (blank : Blank b) (cs : List Char) : skipSpace (b ++ cs) = skipSpace cs :=
  List.dropWhile_append_of_pos blank

theorem skipSpace_cons {c : Char} (plain : isSpace c = false) (cs : List Char) : skipSpace (c :: cs) = c :: cs := by
  rw [skipSpace, List.dropWhile_cons_of_neg (by simp [plain])]

/-- The blanks of a text. -/
structure Layout where
  /-- What stands in front of an item or a member of a level, and in front of the bracket that closes the
  level below. -/
  line : Nat → List Char
  /-- What stands behind the colon of a member. -/
  gap : List Char
  blank_line : ∀ level, Blank (line level)
  blank_gap : Blank gap

namespace Layout

/-- No blanks at all. -/
def compact : Layout where
  line _ := []
  gap := []
  blank_line _ := List.forall_mem_nil _
  blank_gap := List.forall_mem_nil _

theorem blank_newLine (level : Nat) : Blank (newLine level) := by
  intro c member
  rcases List.mem_cons.mp member with rfl | indent
  · decide
  · rw [List.eq_of_mem_replicate indent]
    decide

/-- Every item on a line of its own. -/
def pretty : Layout where
  line := newLine
  gap := [' ']
  blank_line := blank_newLine
  blank_gap := by simp [Blank, isSpace]

end Layout

mutual

/-- The text of a value at a level of a layout. -/
def Value.laidOut (l : Layout) (level : Nat) : Value → List Char
  | .null => "null".toList
  | .bool true => "true".toList
  | .bool false => "false".toList
  | .num n => n.text.toList
  | .str s => quoteChars s.toList
  | .arr [] => ['[', ']']
  | .arr (v :: rest) =>
    '[' :: (l.line (level + 1) ++ (laidItems l (level + 1) (v :: rest) ++ (l.line level ++ [']'])))
  | .obj [] => ['\x7b', '\x7d']
  | .obj (m :: rest) =>
    '\x7b' :: (l.line (level + 1) ++ (laidMembers l (level + 1) (m :: rest) ++ (l.line level ++ ['\x7d'])))

/-- The items of an array, without the blanks in front of the first. -/
def laidItems (l : Layout) (level : Nat) : List Value → List Char
  | [] => []
  | [v] => v.laidOut l level
  | v :: w :: rest => v.laidOut l level ++ ',' :: (l.line level ++ laidItems l level (w :: rest))

/-- The members of an object, without the blanks in front of the first. -/
def laidMembers (l : Layout) (level : Nat) : List (String × Value) → List Char
  | [] => []
  | [(k, v)] => quoteChars k.toList ++ ':' :: (l.gap ++ v.laidOut l level)
  | (k, v) :: m :: rest =>
    quoteChars k.toList ++
      ':' :: (l.gap ++ (v.laidOut l level ++ ',' :: (l.line level ++ laidMembers l level (m :: rest))))

end

/-! ## The two ways of writing -/

mutual

theorem Value.laidOut_compact : (v : Value) → (level : Nat) → v.laidOut .compact level = v.compactChars
  | .null, _ | .bool true, _ | .bool false, _ | .num _, _ | .str _, _ | .arr [], _ | .obj [], _ => rfl
  | .arr (v :: rest), level => by
    rw [Value.laidOut, laidItems_compact (v :: rest) (level + 1)]
    rfl
  | .obj (m :: rest), level => by
    rw [Value.laidOut, laidMembers_compact (m :: rest) (level + 1)]
    rfl

theorem laidItems_compact : (items : List Value) → (level : Nat) → laidItems .compact level items = compactItems items
  | [], _ => rfl
  | [v], level => v.laidOut_compact level
  | v :: w :: rest, level => by
    rw [laidItems, v.laidOut_compact level, laidItems_compact (w :: rest) level]
    rfl

theorem laidMembers_compact :
    (ms : List (String × Value)) → (level : Nat) → laidMembers .compact level ms = compactMembers ms
  | [], _ => rfl
  | [(k, v)], level => by
    rw [laidMembers, v.laidOut_compact level]
    rfl
  | (k, v) :: m :: rest, level => by
    rw [laidMembers, v.laidOut_compact level, laidMembers_compact (m :: rest) level]
    rfl

end

mutual

theorem Value.laidOut_pretty : (v : Value) → (level : Nat) → v.laidOut .pretty level = v.prettyChars level
  | .null, _ | .bool true, _ | .bool false, _ | .num _, _ | .str _, _ | .arr [], _ | .obj [], _ => rfl
  | .arr (v :: rest), level => by
    have items := laidItems_pretty (v :: rest) (level + 1) (List.cons_ne_nil v rest)
    rw [Value.laidOut, Value.prettyChars, ← items, List.append_assoc, List.append_assoc]
    rfl
  | .obj (m :: rest), level => by
    have members := laidMembers_pretty (m :: rest) (level + 1) (List.cons_ne_nil m rest)
    rw [Value.laidOut, Value.prettyChars, ← members, List.append_assoc, List.append_assoc]
    rfl

theorem laidItems_pretty : (items : List Value) → (level : Nat) → items ≠ [] →
    newLine level ++ laidItems .pretty level items = prettyItems level items
  | [], _, inhabited => absurd rfl inhabited
  | [v], level, _ => by rw [laidItems, prettyItems, v.laidOut_pretty level]
  | v :: w :: rest, level, _ => by
    have items := laidItems_pretty (w :: rest) level (List.cons_ne_nil w rest)
    rw [laidItems, prettyItems, v.laidOut_pretty level, ← items, List.append_assoc]
    rfl

theorem laidMembers_pretty : (ms : List (String × Value)) → (level : Nat) → ms ≠ [] →
    newLine level ++ laidMembers .pretty level ms = prettyMembers level ms
  | [], _, inhabited => absurd rfl inhabited
  | [(k, v)], level, _ => by
    rw [laidMembers, prettyMembers, v.laidOut_pretty level, List.append_assoc]
    rfl
  | (k, v) :: m :: rest, level, _ => by
    have members := laidMembers_pretty (m :: rest) level (List.cons_ne_nil m rest)
    rw [laidMembers, prettyMembers, v.laidOut_pretty level, ← members]
    simp [Layout.pretty]

end

end StreamPolicy.Json
