import StreamPolicy.Json.Outline
import StreamPolicy.Proofs.Json.Reading

/-!
# Members that count are read back

An object all of whose members are taken is read as it was written, each member by its own outline.
-/

namespace StreamPolicy.Json.Outline

/-- An outline takes a value as it is from its compact text, where some more levels may open. -/
structure Reads (o : Outline) (depth : Nat) (v : Value) : Prop where
  starts : ∀ cs, skipSpace (v.compactChars ++ cs) = v.compactChars ++ cs
  reads : ∀ {rest : List Char}, Stops rest → ∀ {fuel : Nat}, 2 * v.compactChars.length ≤ fuel + 1 →
    o.value? (fuel + 1) depth (v.compactChars ++ rest) = some (v, rest)

theorem reads_whole {depth : Nat} {v : Value} (legible : v.Legible depth) : whole.Reads depth v where
  starts := legible.skipSpace_compactChars
  reads stops _ enough := value?_compactChars v legible stops enough

section
variable {fields : List (String × Outline)} {fuel depth : Nat} {k : String} {f : String × Outline} {cs rest : List Char}
  {v : Value}

/-- What a member does to the reading of the members behind it. -/
theorem members?_key (found : fields.find? (fun f => f.1 = k) = some f) (fuel depth : Nat) (cs : List Char) :
    members? (fuel + 1) depth fields (quoteChars k.toList ++ ':' :: cs) =
      match (value? fuel depth f.2 (skipSpace cs)).map fun (v, rest) => ([(k, v)], rest) with
      | none => none
      | some (ms, rest) =>
        match skipSpace rest with
        | '\x7d' :: rest => some (ms, rest)
        | ',' :: rest => (members? fuel depth fields (skipSpace rest)).map fun (more, rest) => (ms ++ more, rest)
        | _ => none := by
  have key := text?_quoted k.toList (':' :: cs)
  simp only [quoteChars, List.cons_append, List.append_assoc, List.nil_append, members?, key, String.ofList_toList, found]
  rfl

theorem members?_last (found : fields.find? (fun f => f.1 = k) = some f)
    (read : value? fuel depth f.2 (skipSpace cs) = some (v, '\x7d' :: rest)) :
    members? (fuel + 1) depth fields (quoteChars k.toList ++ ':' :: cs) = some ([(k, v)], rest) := by
  rw [members?_key found, read]
  rfl

theorem members?_more (found : fields.find? (fun f => f.1 = k) = some f)
    (read : value? fuel depth f.2 (skipSpace cs) = some (v, ',' :: rest)) :
    members? (fuel + 1) depth fields (quoteChars k.toList ++ ':' :: cs) =
      (members? fuel depth fields (skipSpace rest)).map fun (ms, rest) => ((k, v) :: ms, rest) := by
  rw [members?_key found, read]
  rfl

theorem value?_object (fields : List (String × Outline)) (fuel depth : Nat) (cs : List Char) :
    value? (fuel + 1) (depth + 1) (.members fields) ('\x7b' :: '"' :: cs) =
      (members? fuel depth fields ('"' :: cs)).map fun (ms, rest) => (.obj ms, rest) := by
  rfl

end

/-- Each of some members is taken, as it is. -/
def Takes (fields : List (String × Outline)) (depth : Nat) (ms : List (String × Value)) : Prop :=
  ∀ m ∈ ms, ∃ f, fields.find? (fun f => f.1 = m.1) = some f ∧ f.2.Reads depth m.2

theorem takes_nil (fields : List (String × Outline)) (depth : Nat) : Takes fields depth [] :=
  nofun

theorem Takes.cons {fields : List (String × Outline)} {depth : Nat} {k : String} {v : Value} {ms : List (String × Value)}
    (takes : Takes fields depth ms) {f : String × Outline} (found : fields.find? (fun f => f.1 = k) = some f)
    (reads : f.2.Reads depth v) : Takes fields depth ((k, v) :: ms) :=
  List.forall_mem_cons.mpr ⟨⟨f, found, reads⟩, takes⟩

theorem Takes.append {fields : List (String × Outline)} {depth : Nat} {a b : List (String × Value)}
    (front : Takes fields depth a) (back : Takes fields depth b) : Takes fields depth (a ++ b) :=
  List.forall_mem_append.mpr ⟨front, back⟩

theorem members?_compactMembers {fields : List (String × Outline)} {depth : Nat} {ms : List (String × Value)}
    (takes : Takes fields depth ms) (inhabited : ms ≠ []) (rest : List Char) {fuel : Nat}
    (enough : 2 * (compactMembers ms).length ≤ fuel) :
    members? (fuel + 1) depth fields (compactMembers ms ++ '\x7d' :: rest) = some (ms, rest) := by
  induction ms generalizing fuel with
  | nil => exact absurd rfl inhabited
  | cons m ms ih =>
    obtain ⟨k, v⟩ := m
    obtain ⟨f, found, reads⟩ : ∃ f, fields.find? (fun f => f.1 = k) = some f ∧ f.2.Reads depth v :=
      takes (k, v) List.mem_cons_self
    cases ms with
    | nil =>
      simp only [compactMembers, List.length_append, List.length_cons, List.append_assoc, List.cons_append] at enough ⊢
      obtain ⟨fuel, rfl⟩ : ∃ less, fuel = less + 1 := ⟨fuel - 1, by omega⟩
      apply members?_last found
      rw [reads.starts]
      exact reads.reads (stops_cons rfl rest) (by omega)
    | cons m ms =>
      simp only [compactMembers, List.length_append, List.length_cons, List.append_assoc, List.cons_append] at enough ⊢
      obtain ⟨fuel, rfl⟩ : ∃ less, fuel = less + 1 := ⟨fuel - 1, by omega⟩
      have first : value? (fuel + 1) depth f.2
          (skipSpace (v.compactChars ++ ',' :: (compactMembers (m :: ms) ++ '\x7d' :: rest))) =
          some (v, ',' :: (compactMembers (m :: ms) ++ '\x7d' :: rest)) := by
        rw [reads.starts]
        exact reads.reads (stops_cons rfl _) (by omega)
      have others : members? (fuel + 1) depth fields (compactMembers (m :: ms) ++ '\x7d' :: rest) = some (m :: ms, rest) :=
        ih (fun m later => takes m (List.mem_cons_of_mem _ later)) (List.cons_ne_nil m ms) (by omega)
      obtain ⟨cs, written⟩ := starts_compactMembers m ms
      rw [members?_more found first]
      rw [written] at others ⊢
      rw [List.cons_append, skipSpace_cons (by decide), ← List.cons_append, others]
      rfl

/-- An object is read as it is when all its members are. -/
theorem reads_members {fields : List (String × Outline)} {depth : Nat} {m : String × Value} {ms : List (String × Value)}
    (takes : Takes fields depth (m :: ms)) : (members fields).Reads (depth + 1) (.obj (m :: ms)) where
  starts cs := by rw [Value.compactChars, List.cons_append, skipSpace_cons (by decide)]
  reads {rest} _ fuel enough := by
    simp only [Value.compactChars, List.length_cons, List.length_append, List.length_nil] at enough
    obtain ⟨fuel, rfl⟩ : ∃ less, fuel = less + 1 := ⟨fuel - 1, by omega⟩
    have read : members? (fuel + 1) depth fields (compactMembers (m :: ms) ++ '\x7d' :: rest) = some (m :: ms, rest) :=
      members?_compactMembers takes (List.cons_ne_nil m ms) rest (by omega)
    obtain ⟨cs, written⟩ := starts_compactMembers m ms
    simp only [Value.compactChars, List.cons_append, List.append_assoc, List.nil_append, written] at read ⊢
    rw [value?_object, read, Option.map_some]

/-- Blanks behind a value are passed over. -/
theorem parse?_compact_append {o : Outline} {v : Value} (reads : o.Reads maxDepth v) {blanks : List Char}
    (stops : Stops blanks) (blank : skipSpace blanks = []) : o.parse? (String.ofList (v.compactChars ++ blanks)) = some v := by
  have read : o.value? (2 * (v.compactChars ++ blanks).length + 1 + 1) maxDepth (v.compactChars ++ blanks) =
      some (v, blanks) :=
    reads.reads stops (by rw [List.length_append]; omega)
  rw [parse?, String.length_ofList, String.toList_ofList, reads.starts, read]
  simp [blank]

theorem parse?_compact {o : Outline} {v : Value} (reads : o.Reads maxDepth v) : o.parse? v.compact = some v := by
  have whole := parse?_compact_append reads stops_nil rfl
  rwa [List.append_nil] at whole

end StreamPolicy.Json.Outline
