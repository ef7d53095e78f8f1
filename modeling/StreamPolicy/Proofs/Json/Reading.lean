import StreamPolicy.Proofs.Json.Members
import StreamPolicy.Proofs.Json.Number

/-!
# Text read back

The text of a value in any layout is read as that value, whatever follows it, unless it nests too deep
or holds a number that is not read back by itself. Reading spends at most two steps on a character.
-/

namespace StreamPolicy.Json

open StreamPolicy.Text

/-! ## Texts -/

theorem hexUnit?_hexPair {n : Nat} (control : n < 0x20) (cs : List Char) :
    hexUnit? ('0' :: '0' :: (hexPair n ++ cs)) = some (n, cs) := by
  have value : natIn? 16 ('0' :: '0' :: hexPair n) = some n := by
    revert n
    decide
  simp only [hexPair, List.cons_append, List.nil_append, hexUnit?] at value ⊢
  rw [value, Option.map_some]

/-- A character is read back from the way in which it stands between quotes. -/
theorem text?_escapeChar (c : Char) (fuel : Nat) (cs : List Char) :
    text? (fuel + 1) (escapeChar c ++ cs) = (text? fuel cs).map fun (s, rest) => (c :: s, rest) := by
  have back {n : Nat} (same : c.toNat = n) : Char.ofNat n = c := same ▸ Char.ofNat_toNat c
  unfold escapeChar
  split
  next quote => subst quote; rfl
  split
  next backslash => subst backslash; rfl
  split
  next newline => subst newline; rfl
  split
  next feed => subst feed; rfl
  split
  next tab => subst tab; rfl
  split
  next _ _ _ _ _ backspace =>
    have escaped : escape? ('b' :: cs) = some (c, cs) := by rw [← back backspace]; rfl
    simp [text?, escaped]
  split
  next _ _ _ _ _ _ formFeed =>
    have escaped : escape? ('f' :: cs) = some (c, cs) := by rw [← back formFeed]; rfl
    simp [text?, escaped]
  split
  next _ _ _ _ _ _ _ control =>
    have escaped : escape? ('u' :: '0' :: '0' :: (hexPair c.toNat ++ cs)) = some (c, cs) := by
      have low : ¬ 0xD800 ≤ c.toNat := by omega
      have lower : ¬ 0xDC00 ≤ c.toNat := by omega
      simp [escape?, codeEscape?, hexUnit?_hexPair control, low, lower]
    simp [text?, escaped]
  next quote backslash _ _ _ _ _ plain => simp [text?, quote, backslash, plain]

theorem length_le_length_escaped (s : List Char) : s.length ≤ (s.flatMap escapeChar).length := by
  have inhabited (c : Char) : 1 ≤ (escapeChar c).length := by
    unfold escapeChar
    repeat' split
    all_goals simp
  induction s with
  | nil => exact Nat.zero_le _
  | cons c s ih =>
    have first := inhabited c
    rw [List.flatMap_cons, List.length_append, List.length_cons]
    omega

/-- A text between quotes is read back. -/
theorem text?_escaped (s rest : List Char) {fuel : Nat} (enough : s.length < fuel) :
    text? fuel (s.flatMap escapeChar ++ '"' :: rest) = some (s, rest) := by
  induction s generalizing fuel with
  | nil =>
    cases fuel with
    | zero => cases enough
    | succ fuel => rfl
  | cons c s ih =>
    cases fuel with
    | zero => cases enough
    | succ fuel =>
      rw [List.flatMap_cons, List.append_assoc, text?_escapeChar, ih (Nat.lt_of_succ_lt_succ enough)]
      rfl

/-- The fuel that a text gets is enough for it. -/
theorem text?_quoted (s rest : List Char) :
    text? ((s.flatMap escapeChar ++ '"' :: rest).length + 1) (s.flatMap escapeChar ++ '"' :: rest) = some (s, rest) := by
  apply text?_escaped
  have shorter := length_le_length_escaped s
  rw [List.length_append]
  omega

/-! ## Values that are read back -/

mutual

/-- A value is read back where some more levels may open: it does not nest deeper, and its numbers are read
back. -/
def Value.Legible : Nat → Value → Prop
  | _, .null => True
  | _, .bool _ => True
  | _, .num n => n.Legible
  | _, .str _ => True
  | depth, .arr items => 0 < depth ∧ LegibleItems (depth - 1) items
  | depth, .obj ms => 0 < depth ∧ LegibleMembers (depth - 1) ms

/-- Items that are read back. -/
def LegibleItems : Nat → List Value → Prop
  | _, [] => True
  | depth, v :: rest => v.Legible depth ∧ LegibleItems depth rest

/-- Members whose values are read back. -/
def LegibleMembers : Nat → List (String × Value) → Prop
  | _, [] => True
  | depth, (_, v) :: rest => v.Legible depth ∧ LegibleMembers depth rest

end

theorem legibleMembers_iff {depth : Nat} {ms : List (String × Value)} :
    LegibleMembers depth ms ↔ ∀ m ∈ ms, m.2.Legible depth := by
  induction ms with
  | nil => exact iff_of_true trivial nofun
  | cons m ms ih =>
    rw [List.forall_mem_cons, ← ih]
    rfl

/-- An object of values that are read back is read back one level higher. -/
theorem Value.legible_object {depth : Nat} {ms : List (String × Value)} (legible : ∀ m ∈ ms, m.2.Legible depth) :
    (object ms).Legible (depth + 1) :=
  ⟨Nat.succ_pos depth, legibleMembers_iff.mpr fun m member => legible m (Members.mem_of_mem_ofList member)⟩

/-- A number starts with a digit or a minus sign. -/
theorem starts_of_readNumber? {cs : List Char} {n : Number} {r : List Char} (read : readNumber? cs = some (n, r)) :
    ∃ c rest, cs = c :: rest ∧ (c = '-' ∨ isDigit c = true) := by
  unfold readNumber? at read
  split at read
  next rest => exact ⟨'-', rest, rfl, .inl rfl⟩
  · obtain ⟨c, rest, same, digit⟩ := isDigit_of_number? read
    exact ⟨c, rest, same, .inr digit⟩

theorem readNumber?_append {cs rest : List Char} (stops : Stops rest) {n : Number} (read : readNumber? cs = some (n, [])) :
    readNumber? (cs ++ rest) = some (n, rest) := by
  unfold readNumber? at read
  split at read
  next cs => exact number?_append stops read
  · obtain ⟨c, cs, rfl, digit⟩ := isDigit_of_number? read
    rw [List.cons_append, readNumber?_of_isDigit digit]
    exact number?_append stops read

/-- A value starts with a character that is neither a blank nor a closing bracket. -/
theorem Value.Legible.starts {depth : Nat} {v : Value} (legible : v.Legible depth) (l : Layout) (level : Nat) :
    ∃ c cs, v.laidOut l level = c :: cs ∧ isSpace c = false ∧ c ≠ ']' := by
  cases v with
  | null => exact ⟨'n', _, rfl, by decide, by decide⟩
  | bool b =>
    cases b with
    | true => exact ⟨'t', _, rfl, by decide, by decide⟩
    | false => exact ⟨'f', _, rfl, by decide, by decide⟩
  | num n =>
    obtain ⟨c, rest, written, minus | digit⟩ := starts_of_readNumber? (show readNumber? n.text.toList = _ from legible)
    · exact ⟨c, rest, written, by rw [minus]; decide, by rw [minus]; decide⟩
    · have foreign (x : Char) (other : isDigit x = false) : c ≠ x := by
        rintro rfl
        rw [other] at digit
        cases digit
      refine ⟨c, rest, written, ?_, foreign ']' (by decide)⟩
      simp [isSpace, foreign ' ' (by decide), foreign '\n' (by decide), foreign '\t' (by decide),
        foreign '\r' (by decide)]
  | str s => exact ⟨'"', _, rfl, by decide, by decide⟩
  | arr items => cases items <;> exact ⟨'[', _, rfl, by decide, by decide⟩
  | obj ms => cases ms <;> exact ⟨'\x7b', _, rfl, by decide, by decide⟩

theorem value?_of_readNumber? {cs : List Char} {n : Number} {r : List Char} (read : readNumber? cs = some (n, r))
    (fuel depth : Nat) : value? (fuel + 1) depth cs = some (.num n, r) := by
  unfold readNumber? at read
  split at read
  next cs => 
    show (number? true cs).map _ = _
    rw [read]
    rfl
  next =>
    obtain ⟨c, rest, rfl, digit⟩ := isDigit_of_number? read
    unfold value?
    split
    case h_8 =>
      rw [read]
      rfl
    all_goals
      next same =>
        cases same
        exact absurd digit (by decide)

section
variable {depth : Nat} (l : Layout) (level : Nat)

theorem Value.Legible.skipSpace {v : Value} (legible : v.Legible depth) (cs : List Char) :
    Json.skipSpace (v.laidOut l level ++ cs) = v.laidOut l level ++ cs := by
  obtain ⟨c, rest, written, plain, -⟩ := legible.starts l level
  rw [written, List.cons_append, skipSpace_cons plain]

theorem Value.Legible.length_pos {v : Value} (legible : v.Legible depth) : 0 < (v.laidOut l level).length := by
  obtain ⟨c, rest, written, -⟩ := legible.starts l level
  rw [written]
  exact Nat.succ_pos _

theorem LegibleItems.starts {v : Value} {items : List Value} (legible : LegibleItems depth (v :: items)) :
    ∃ c cs, laidItems l level (v :: items) = c :: cs ∧ isSpace c = false ∧ c ≠ ']' := by
  obtain ⟨c, rest, written, plain, other⟩ := legible.1.starts l level
  cases items with
  | nil => exact ⟨c, rest, written, plain, other⟩
  | cons w items => exact ⟨c, _, by rw [laidItems, written, List.cons_append], plain, other⟩

theorem LegibleItems.skipSpace {v : Value} {items : List Value} (legible : LegibleItems depth (v :: items))
    (cs : List Char) :
    Json.skipSpace (laidItems l level (v :: items) ++ cs) = laidItems l level (v :: items) ++ cs := by
  obtain ⟨c, rest, written, plain, -⟩ := legible.starts l level
  rw [written, List.cons_append, skipSpace_cons plain]

theorem starts_laidMembers (m : String × Value) (ms : List (String × Value)) :
    ∃ cs, laidMembers l level (m :: ms) = '"' :: cs := by
  obtain ⟨k, v⟩ := m
  cases ms with
  | nil => exact ⟨_, rfl⟩
  | cons m' ms => exact ⟨_, rfl⟩

theorem skipSpace_laidMembers (m : String × Value) (ms : List (String × Value)) (cs : List Char) :
    skipSpace (laidMembers l level (m :: ms) ++ cs) = laidMembers l level (m :: ms) ++ cs := by
  obtain ⟨rest, written⟩ := starts_laidMembers l level m ms
  rw [written, List.cons_append, skipSpace_cons (by decide)]

end

theorem starts_compactMembers (m : String × Value) (ms : List (String × Value)) :
    ∃ cs, compactMembers (m :: ms) = '"' :: cs := by
  rw [← laidMembers_compact (m :: ms) 0]
  exact starts_laidMembers .compact 0 m ms

/-! ## Steps of reading -/

section
variable {fuel depth : Nat} {cs rest : List Char} {v : Value}

theorem value?_quoteChars (fuel depth : Nat) (s : String) (rest : List Char) :
    value? (fuel + 1) depth (quoteChars s.toList ++ rest) = some (.str s, rest) := by
  have text := text?_quoted s.toList rest
  simp only [quoteChars, List.cons_append, List.append_assoc, List.nil_append, value?, text, Option.map_some,
    String.ofList_toList]

theorem value?_array {b : List Char} (blank : Blank b) {c : Char} (plain : isSpace c = false) (other : c ≠ ']') :
    value? (fuel + 1) (depth + 1) ('[' :: (b ++ c :: cs)) =
      (items? fuel depth (c :: cs)).map fun (vs, rest) => (.arr vs, rest) := by
  simp only [value?]
  rw [skipSpace_append blank, skipSpace_cons plain]
  split
  next same =>
    cases same
    exact absurd rfl other
  · rfl

theorem value?_object {b : List Char} (blank : Blank b) (fuel depth : Nat) (cs : List Char) :
    value? (fuel + 1) (depth + 1) ('\x7b' :: (b ++ '"' :: cs)) =
      (members? fuel depth ('"' :: cs)).map fun (ms, rest) => (.obj ms, rest) := by
  simp only [value?]
  rw [skipSpace_append blank, skipSpace_cons (by decide)]
  rfl

theorem items?_last {b : List Char} (blank : Blank b) (read : value? fuel depth cs = some (v, b ++ ']' :: rest)) :
    items? (fuel + 1) depth cs = some ([v], rest) := by
  simp only [items?, read]
  rw [skipSpace_append blank]
  rfl

theorem items?_more (read : value? fuel depth cs = some (v, ',' :: rest)) :
    items? (fuel + 1) depth cs = (items? fuel depth (skipSpace rest)).map fun (vs, rest) => (v :: vs, rest) := by
  rw [items?, read]
  rfl

theorem members?_key (fuel depth : Nat) (k : String) (cs : List Char) :
    members? (fuel + 1) depth (quoteChars k.toList ++ ':' :: cs) =
      match value? fuel depth (skipSpace cs) with
      | none => none
      | some (v, rest) =>
        match skipSpace rest with
        | '\x7d' :: rest => some ([(k, v)], rest)
        | ',' :: rest => (members? fuel depth (skipSpace rest)).map fun (ms, rest) => ((k, v) :: ms, rest)
        | _ => none := by
  have key := text?_quoted k.toList (':' :: cs)
  simp only [quoteChars, List.cons_append, List.append_assoc, List.nil_append, members?, key, String.ofList_toList]
  rfl

theorem members?_last {b : List Char} (blank : Blank b) {k : String}
    (read : value? fuel depth (skipSpace cs) = some (v, b ++ '\x7d' :: rest)) :
    members? (fuel + 1) depth (quoteChars k.toList ++ ':' :: cs) = some ([(k, v)], rest) := by
  simp only [members?_key, read]
  rw [skipSpace_append blank]
  rfl

theorem members?_more {k : String} (read : value? fuel depth (skipSpace cs) = some (v, ',' :: rest)) :
    members? (fuel + 1) depth (quoteChars k.toList ++ ':' :: cs) =
      (members? fuel depth (skipSpace rest)).map fun (ms, rest) => ((k, v) :: ms, rest) := by
  rw [members?_key, read]
  rfl

end

/-! ## Whole values -/

mutual

/-- The text of a value in a layout is read as that value, whatever follows. -/
theorem value?_laidOut : (v : Value) → {depth : Nat} → v.Legible depth → {l : Layout} → {level : Nat} →
    {rest : List Char} → Stops rest → {fuel : Nat} → 2 * (v.laidOut l level).length ≤ fuel + 1 →
    value? (fuel + 1) depth (v.laidOut l level ++ rest) = some (v, rest)
  | .null, _, _, _, _, _, _, _, _ => rfl
  | .bool true, _, _, _, _, _, _, _, _ => rfl
  | .bool false, _, _, _, _, _, _, _, _ => rfl
  | .num _, depth, legible, _, _, _, stops, fuel, _ =>
    value?_of_readNumber? (readNumber?_append stops legible) fuel depth
  | .str s, depth, _, _, _, rest, _, fuel, _ => value?_quoteChars fuel depth s rest
  | .arr [], depth, legible, _, _, rest, _, fuel, _ => by
    obtain ⟨depth, rfl⟩ := Nat.exists_eq_succ_of_ne_zero (Nat.ne_of_gt legible.1)
    rfl
  | .arr (v :: items), depth, legible, l, level, rest, _, fuel, enough => by
    obtain ⟨depth, rfl⟩ := Nat.exists_eq_succ_of_ne_zero (Nat.ne_of_gt legible.1)
    simp only [Value.laidOut, List.length_cons, List.length_append, List.length_nil] at enough
    obtain ⟨fuel, rfl⟩ : ∃ less, fuel = less + 1 := ⟨fuel - 1, by omega⟩
    have inside : LegibleItems depth (v :: items) := legible.2
    have read : items? (fuel + 1) depth (laidItems l (level + 1) (v :: items) ++ (l.line level ++ ']' :: rest)) =
        some (v :: items, rest) :=
      items?_laidItems (v :: items) inside (l.blank_line level) rest (by omega) (List.cons_ne_nil v items)
    obtain ⟨c, cs, written, plain, other⟩ := inside.starts l (level + 1)
    simp only [Value.laidOut, List.cons_append, List.append_assoc, List.nil_append, written] at read ⊢
    rw [value?_array (l.blank_line (level + 1)) plain other, read, Option.map_some]
  | .obj [], depth, legible, _, _, rest, _, fuel, _ => by
    obtain ⟨depth, rfl⟩ := Nat.exists_eq_succ_of_ne_zero (Nat.ne_of_gt legible.1)
    rfl
  | .obj (m :: ms), depth, legible, l, level, rest, _, fuel, enough => by
    obtain ⟨depth, rfl⟩ := Nat.exists_eq_succ_of_ne_zero (Nat.ne_of_gt legible.1)
    simp only [Value.laidOut, List.length_cons, List.length_append, List.length_nil] at enough
    obtain ⟨fuel, rfl⟩ : ∃ less, fuel = less + 1 := ⟨fuel - 1, by omega⟩
    have inside : LegibleMembers depth (m :: ms) := legible.2
    have read : members? (fuel + 1) depth (laidMembers l (level + 1) (m :: ms) ++ (l.line level ++ '\x7d' :: rest)) =
        some (m :: ms, rest) :=
      members?_laidMembers (m :: ms) inside (l.blank_line level) rest (by omega) (List.cons_ne_nil m ms)
    obtain ⟨cs, written⟩ := starts_laidMembers l (level + 1) m ms
    simp only [Value.laidOut, List.cons_append, List.append_assoc, List.nil_append, written] at read ⊢
    rw [value?_object (l.blank_line (level + 1)), read, Option.map_some]

theorem items?_laidItems : (items : List Value) → {depth : Nat} → LegibleItems depth items → {l : Layout} →
    {level : Nat} → {b : List Char} → Blank b → (rest : List Char) → {fuel : Nat} →
    2 * (laidItems l level items).length ≤ fuel → items ≠ [] →
    items? (fuel + 1) depth (laidItems l level items ++ (b ++ ']' :: rest)) = some (items, rest)
  | [], _, _, _, _, _, _, _, _, _, inhabited => absurd rfl inhabited
  | [v], depth, legible, l, level, b, blank, rest, fuel, enough, _ => by
    simp only [laidItems] at enough ⊢
    have some : 0 < (v.laidOut l level).length := legible.1.length_pos l level
    obtain ⟨fuel, rfl⟩ : ∃ less, fuel = less + 1 := ⟨fuel - 1, by omega⟩
    exact items?_last blank (value?_laidOut v legible.1 (stops_append blank (stops_cons rfl rest)) enough)
  | v :: w :: items, depth, legible, l, level, b, blank, rest, fuel, enough, _ => by
    simp only [laidItems, List.length_append, List.length_cons, List.append_assoc, List.cons_append] at enough ⊢
    obtain ⟨fuel, rfl⟩ : ∃ less, fuel = less + 1 := ⟨fuel - 1, by omega⟩
    have first : value? (fuel + 1) depth
        (v.laidOut l level ++ ',' :: (l.line level ++ (laidItems l level (w :: items) ++ (b ++ ']' :: rest)))) =
        some (v, ',' :: (l.line level ++ (laidItems l level (w :: items) ++ (b ++ ']' :: rest)))) :=
      value?_laidOut v legible.1 (stops_cons rfl _) (by omega)
    have others : items? (fuel + 1) depth (laidItems l level (w :: items) ++ (b ++ ']' :: rest)) =
        some (w :: items, rest) :=
      items?_laidItems (w :: items) legible.2 blank rest (by omega) (List.cons_ne_nil w items)
    rw [items?_more first, skipSpace_append (l.blank_line level), LegibleItems.skipSpace l level legible.2, others]
    rfl

theorem members?_laidMembers : (ms : List (String × Value)) → {depth : Nat} → LegibleMembers depth ms →
    {l : Layout} → {level : Nat} → {b : List Char} → Blank b → (rest : List Char) → {fuel : Nat} →
    2 * (laidMembers l level ms).length ≤ fuel → ms ≠ [] →
    members? (fuel + 1) depth (laidMembers l level ms ++ (b ++ '\x7d' :: rest)) = some (ms, rest)
  | [], _, _, _, _, _, _, _, _, _, inhabited => absurd rfl inhabited
  | [(k, v)], depth, legible, l, level, b, blank, rest, fuel, enough, _ => by
    simp only [laidMembers, List.length_append, List.length_cons, List.append_assoc, List.cons_append] at enough ⊢
    obtain ⟨fuel, rfl⟩ : ∃ less, fuel = less + 1 := ⟨fuel - 1, by omega⟩
    apply members?_last blank
    rw [skipSpace_append l.blank_gap, legible.1.skipSpace l level]
    exact value?_laidOut v legible.1 (stops_append blank (stops_cons rfl rest)) (by omega)
  | (k, v) :: m :: ms, depth, legible, l, level, b, blank, rest, fuel, enough, _ => by
    simp only [laidMembers, List.length_append, List.length_cons, List.append_assoc, List.cons_append] at enough ⊢
    obtain ⟨fuel, rfl⟩ : ∃ less, fuel = less + 1 := ⟨fuel - 1, by omega⟩
    have first : value? (fuel + 1) depth (skipSpace (l.gap ++
        (v.laidOut l level ++ ',' :: (l.line level ++ (laidMembers l level (m :: ms) ++ (b ++ '\x7d' :: rest)))))) =
        some (v, ',' :: (l.line level ++ (laidMembers l level (m :: ms) ++ (b ++ '\x7d' :: rest)))) := by
      rw [skipSpace_append l.blank_gap, legible.1.skipSpace l level]
      exact value?_laidOut v legible.1 (stops_cons rfl _) (by omega)
    have others : members? (fuel + 1) depth (laidMembers l level (m :: ms) ++ (b ++ '\x7d' :: rest)) =
        some (m :: ms, rest) :=
      members?_laidMembers (m :: ms) legible.2 blank rest (by omega) (List.cons_ne_nil m ms)
    rw [members?_more first, skipSpace_append (l.blank_line level), skipSpace_laidMembers, others]
    rfl

end

/-! ## The two ways of writing -/

theorem Value.Legible.skipSpace_compactChars {depth : Nat} {v : Value} (legible : v.Legible depth) (cs : List Char) :
    Json.skipSpace (v.compactChars ++ cs) = v.compactChars ++ cs := by
  rw [← v.laidOut_compact 0]
  exact legible.skipSpace .compact 0 cs

/-- The compact text of a value is read as that value, whatever follows. -/
theorem value?_compactChars (v : Value) {depth : Nat} (legible : v.Legible depth) {rest : List Char}
    (stops : Stops rest) {fuel : Nat} (enough : 2 * v.compactChars.length ≤ fuel + 1) :
    value? (fuel + 1) depth (v.compactChars ++ rest) = some (v, rest) := by
  rw [← v.laidOut_compact 0] at enough ⊢
  exact value?_laidOut v legible stops enough

/-- A value that does not nest too deep is what its text in any layout writes. -/
theorem Value.parseWritten?_laidOut {v : Value} (legible : v.Legible maxDepth) (l : Layout) :
    parseWritten? (String.ofList (v.laidOut l 0)) = some v := by
  have read : value? (2 * (v.laidOut l 0).length + 1 + 1) maxDepth (v.laidOut l 0 ++ []) = some (v, []) :=
    value?_laidOut v legible stops_nil (by omega)
  have start : Json.skipSpace (v.laidOut l 0 ++ []) = v.laidOut l 0 ++ [] := legible.skipSpace l 0 []
  rw [List.append_nil] at read start
  rw [parseWritten?, String.length_ofList, String.toList_ofList, start, read]
  rfl

theorem Value.parseWritten?_pretty {v : Value} (legible : v.Legible maxDepth) : parseWritten? v.pretty = some v := by
  rw [pretty, ← v.laidOut_pretty 0, parseWritten?_laidOut legible]

end StreamPolicy.Json
