import StreamPolicy.Listing.Hiding
import StreamPolicy.Proofs.Json.Members
import StreamPolicy.Proofs.Rule.FirstMatch

/-!
# What a hide list hides

A hide list as the units that hide: every flat rule by itself, and the rules of each group together.
A unit has a level, matches a path or not, and is exempt in some listings. `items?_hide` says that a
listing keeps exactly the items that no other unit matches.
-/

namespace StreamPolicy

open StreamPolicy.Json

/-- What hides as one. -/
inductive HideUnit where
  /-- A rule that looks at the path of an item. -/
  | bare (rule : Rule)
  /-- A rule that looks at its own source. -/
  | single (rule : Rule)
  /-- The rules of a group, in order. -/
  | group (rules : List Rule)

namespace HideUnit

/-- The unit of an entry; an entry tagged with a route has none. -/
inductive Of (entries : List Entry) : Entry → HideUnit → Prop
  | bare (r : Rule) : Of entries (.bare r) (.bare r)
  | single (r : Rule) : Of entries (.single r) (.single r)
  | group (n : String) (r : Rule) : Of entries (.grouped n r) (.group (groupRules entries n))

/-- The units of a hide list. -/
def In (entries : List Entry) (u : HideUnit) : Prop :=
  ∃ e ∈ entries, Of entries e u

/-- The first rule of a unit. -/
def first? : HideUnit → Option Rule
  | .bare r => some r
  | .single r => some r
  | .group rs => rs.head?

/-- The level that a field gives: an integer, or a text that writes one between blanks. -/
inductive Writes : Field → Int → Prop
  | int (n : Int) : Writes (.int n) n
  | str {s : String} {n : Int} (written : Text.int64? (Text.trim s) = some n) : Writes (.str s) n

/-- The first field behind the pattern of the first rule gives the unit a level. -/
def HasLevel (u : HideUnit) (n : Int) : Prop :=
  ∃ r f rest, u.first? = some r ∧ r.extra = f :: rest ∧ Writes f n

/-- The unit matches a path: its rule does, or all rules of its group do. -/
def Matches (ctx : Context) (path : String) : HideUnit → Prop
  | .bare r => r.holdsFor ctx .filePath path = true
  | .single r => r.holds ctx path = true
  | .group rs => ∀ r ∈ rs, r.holds ctx path = true

/-- The unit does not hide from a listing. -/
inductive Exempt (ctx : Context) (view : Option View) (mainItem : Option String) (u : HideUnit) : Prop
  /-- It would hide the main item, at no level, level 0 or level 2. -/
  | mainItem {path : String} (level : (∀ n, ¬ u.HasLevel n) ∨ u.HasLevel 0 ∨ u.HasLevel 2)
      (given : mainItem = some path) (nonempty : path ≠ "") (matched : u.Matches ctx path)
  | searchSuggest (kind : view = some .searchSuggest) (level : u.HasLevel 2)
  | backdropSuggest (kind : view = some .backdropSuggest) (level : u.HasLevel 3)
  | itemSimilar (kind : view = some .itemSimilar) (level : u.HasLevel 1)

end HideUnit

/-- The item has a path, and a unit that is not exempt matches it. -/
def Listing.Hidden (ctx : Context) (entries : List Entry) (view : Option View) (mainItem : Option String)
    (item : Value) : Prop :=
  ∃ path, item.get? "Path" = some (.str path) ∧ path ≠ "" ∧
    ∃ u, HideUnit.In entries u ∧ ¬ u.Exempt ctx view mainItem ∧ u.Matches ctx path

/-! ## Units -/

namespace HideUnit

/-- The level of a unit, if it has one. -/
def level? (u : HideUnit) : Option Int :=
  u.first?.bind Rule.hideLevel?

theorem writes_iff {f : Field} {n : Int} : f.number? = some n ↔ Writes f n := by
  constructor
  · intro written
    cases f with
    | int m => cases written; exact .int _
    | str s => exact .str written
    | _ => cases written
  · rintro (_ | written)
    · rfl
    · exact written

theorem level?_eq_some_iff {u : HideUnit} {n : Int} : u.level? = some n ↔ u.HasLevel n := by
  simp only [level?, Rule.hideLevel?, Option.bind_eq_some_iff, writes_iff, HasLevel]
  constructor
  · rintro ⟨r, first, f, behind, written⟩
    obtain ⟨rest, extra⟩ := List.head?_eq_some_iff.mp behind
    exact ⟨r, f, rest, first, extra, written⟩
  · rintro ⟨r, f, rest, first, extra, written⟩
    exact ⟨r, first, f, by rw [extra]; rfl, written⟩

theorem level?_eq_none_iff {u : HideUnit} : u.level? = none ↔ ∀ n, ¬ u.HasLevel n := by
  simp only [Option.eq_none_iff_forall_ne_some, ne_eq, level?_eq_some_iff]

theorem sparesMainItem_iff (u : HideUnit) :
    sparesMainItem u.level? = true ↔ (∀ n, ¬ u.HasLevel n) ∨ u.HasLevel 0 ∨ u.HasLevel 2 := by
  simp [sparesMainItem, level?_eq_some_iff, level?_eq_none_iff, or_assoc]

theorem keeps_iff (u : HideUnit) (view : Option View) :
    View.keeps view u.level? = true ↔
      (view = some .searchSuggest ∧ u.HasLevel 2) ∨ (view = some .backdropSuggest ∧ u.HasLevel 3) ∨
        (view = some .itemSimilar ∧ u.HasLevel 1) := by
  cases view with
  | none => simp [View.keeps]
  | some kind => cases kind <;> simp [View.keeps, level?_eq_some_iff]

theorem exempt_iff {ctx : Context} {view : Option View} {mainItem : Option String} {u : HideUnit} :
    u.Exempt ctx view mainItem ↔
      (sparesMainItem u.level? = true ∧ ∃ path, mainItem = some path ∧ path ≠ "" ∧ u.Matches ctx path) ∨
        View.keeps view u.level? = true := by
  rw [sparesMainItem_iff, keeps_iff]
  constructor
  · intro exempt
    cases exempt with
    | mainItem level given nonempty matched => exact .inl ⟨level, _, given, nonempty, matched⟩
    | searchSuggest kind level => exact .inr (.inl ⟨kind, level⟩)
    | backdropSuggest kind level => exact .inr (.inr (.inl ⟨kind, level⟩))
    | itemSimilar kind level => exact .inr (.inr (.inr ⟨kind, level⟩))
  · rintro (⟨level, path, given, nonempty, matched⟩ | ⟨kind, level⟩ | ⟨kind, level⟩ | ⟨kind, level⟩)
    · exact .mainItem level given nonempty matched
    · exact .searchSuggest kind level
    · exact .backdropSuggest kind level
    · exact .itemSimilar kind level

theorem Of.unique {entries : List Entry} {e : Entry} {u v : HideUnit} (unit : Of entries e u) (unit' : Of entries e v) :
    u = v := by
  cases unit <;> cases unit' <;> rfl

theorem exists_of (entries : List Entry) {e : Entry} (untagged : e.isTagged = false) : ∃ u, Of entries e u := by
  cases e with
  | bare r => exact ⟨_, .bare r⟩
  | single r => exact ⟨_, .single r⟩
  | grouped n r => exact ⟨_, .group n r⟩
  | tagged d n r => cases untagged

end HideUnit

/-! ## Entries and their units -/

section
variable {entries : List Entry} {e : Entry} {u : HideUnit}

theorem Entry.unit_grouped {n : String} {r : Rule} (member : .grouped n r ∈ entries) :
    Entry.unit (groupsByName (entries.filter Entry.isGrouped)) (.grouped n r) = some (groupRules entries n) := by
  have named : n ∈ keysOf Entry.group? (entries.filter Entry.isGrouped) :=
    mem_keysOf_grouped.mpr ⟨_, member, .grouped n r⟩
  have byName : ((fun g : String × List Rule => decide (g.1 = n)) ∘ fun m => (m, groupRules entries m)) =
      fun m => decide (m = n) := rfl
  rw [Entry.unit, groupsByName_eq, Entry.group?, Option.bind_some, List.find?_map, byName]
  cases found : (keysOf Entry.group? (entries.filter Entry.isGrouped)).find? fun m => decide (m = n) with
  | none => simpa using List.find?_eq_none.mp found n named
  | some m =>
    have same : m = n := by simpa using List.find?_some found
    rw [same]
    rfl

theorem HideUnit.Of.hideLevel?_eq (unit : HideUnit.Of entries e u) (member : e ∈ entries) :
    e.hideLevel? (groupsByName (entries.filter Entry.isGrouped)) = u.level? := by
  cases unit with
  | bare r => rfl
  | single r => rfl
  | group n r => rw [Entry.hideLevel?, Entry.unit_grouped member]; rfl

theorem HideUnit.Of.hides_iff (unit : HideUnit.Of entries e u) (member : e ∈ entries) (ctx : Context) (path : String) :
    e.hides ctx (groupsByName (entries.filter Entry.isGrouped)) path = true ↔ u.Matches ctx path := by
  cases unit with
  | bare r => exact Iff.rfl
  | single r => exact Iff.rfl
  | group n r =>
    have named : ∃ e ∈ entries, e.BelongsTo n := ⟨_, member, .grouped n r⟩
    unfold Entry.hides
    rw [Entry.unit_grouped member]
    exact groupHolds_iff.trans (and_iff_right (groupRules_ne_nil named))

/-- An entry applies to a listing unless its unit is exempt. -/
theorem HideUnit.Of.appliesTo_iff (unit : HideUnit.Of entries e u) (member : e ∈ entries) {ctx : Context}
    {view : Option View} {mainItem : Option String} :
    e.appliesTo ctx (groupsByName (entries.filter Entry.isGrouped)) view (mainItem.filter (· ≠ "")) = true ↔
      ¬ u.Exempt ctx view mainItem := by
  have untagged : e.isTagged = false := by cases unit <;> rfl
  have hidesMain : ((mainItem.filter (· ≠ "")).any fun path =>
      e.hides ctx (groupsByName (entries.filter Entry.isGrouped)) path) = true ↔
      ∃ path, mainItem = some path ∧ path ≠ "" ∧ u.Matches ctx path := by
    simp [Option.any_eq_true, unit.hides_iff member]
  rw [Entry.appliesTo, unit.hideLevel?_eq member, untagged, Bool.not_false, Bool.true_and, Bool.and_eq_true,
    Bool.not_eq_true', Bool.not_eq_true', HideUnit.exempt_iff, not_or, ← hidesMain, ← Bool.and_eq_true,
    Bool.not_eq_true, Bool.not_eq_true]

theorem mem_applicableEntries {ctx : Context} {view : Option View} {mainItem : Option String} :
    e ∈ applicableEntries ctx entries view mainItem ↔
      e ∈ entries ∧ ∃ u, HideUnit.Of entries e u ∧ ¬ u.Exempt ctx view mainItem := by
  rw [applicableEntries, List.mem_filter]
  refine and_congr_right fun member => ?_
  cases tagged : e.isTagged with
  | true =>
    -- An entry with a route neither applies nor has a unit, whatever its group.
    have never : ∀ u, ¬ HideUnit.Of entries e u := by
      rintro u (_ | _ | _) <;> cases tagged
    simp [Entry.appliesTo, tagged, never]
  | false =>
    obtain ⟨u, unit⟩ := HideUnit.exists_of entries tagged
    rw [unit.appliesTo_iff member]
    constructor
    · intro active
      exact ⟨u, unit, active⟩
    · rintro ⟨v, unit', active⟩
      rw [unit.unique unit']
      exact active

/-- A match among the entries that apply is a match of a unit that is not exempt. -/
theorem firstMatch?_applicableEntries_eq_none_iff {ctx : Context} {view : Option View} {mainItem : Option String}
    {path : String} :
    firstMatch? ctx (applicableEntries ctx entries view mainItem) path .filePath = none ↔
      ∀ u, HideUnit.In entries u → ¬ u.Exempt ctx view mainItem → ¬ u.Matches ctx path := by
  rw [firstMatch?_eq_none_iff]
  constructor
  · rintro ⟨noFlat, noGroup⟩ u ⟨e, member, unit⟩ active matched
    have applies : e ∈ applicableEntries ctx entries view mainItem := mem_applicableEntries.mpr ⟨member, u, unit, active⟩
    cases unit with
    | bare r => exact noFlat _ applies ⟨.bare r, matched⟩
    | single r => exact noFlat _ applies ⟨.single r, matched⟩
    | group n r =>
      refine noGroup _ applies n (.grouped n r) ?_
      intro e' applies' belongs
      exact together_iff.mpr matched e' (mem_applicableEntries.mp applies').1 belongs
  · intro missed
    constructor
    · rintro e applies ⟨flat, matched⟩
      obtain ⟨member, u, unit, active⟩ := mem_applicableEntries.mp applies
      refine missed u ⟨e, member, unit⟩ active ?_
      cases flat with
      | bare r => cases unit; exact matched
      | single r => cases unit; exact matched
    · intro e applies n belongs together
      obtain ⟨member, u, unit, active⟩ := mem_applicableEntries.mp applies
      refine missed u ⟨e, member, unit⟩ active ?_
      cases belongs with
      | grouped n r =>
        cases unit with
        | group n r =>
          -- The whole group applies, since all its entries have this one unit.
          refine together_iff.mp ?_
          intro e' member' belongs'
          refine together e' (mem_applicableEntries.mpr ⟨member', _, ?_, active⟩) belongs'
          cases belongs' with
          | grouped n r' => exact .group n r'

end

/-! ## Listings -/

namespace Listing

theorem itemPath?_eq_some_iff {item : Value} {path : String} :
    itemPath? item = some path ↔ item.get? "Path" = some (.str path) ∧ path ≠ "" := by
  have text (v : Value) : v.str? = some path ↔ v = .str path := by
    cases v <;> simp [Value.str?]
  rw [itemPath?, Option.filter_eq_some_iff, Option.bind_eq_some_iff]
  simp [text, pathKey]

theorem staysVisible_iff {ctx : Context} {entries : List Entry} {view : Option View} {mainItem : Option String}
    (item : Value) :
    staysVisible ctx (applicableEntries ctx entries view mainItem) item = true ↔
      ¬ Hidden ctx entries view mainItem item := by
  rw [staysVisible]
  cases path : itemPath? item with
  | none =>
    have pathless (p : String) : ¬ (item.get? "Path" = some (.str p) ∧ p ≠ "") := by
      rw [← itemPath?_eq_some_iff, path]
      exact nofun
    simp only [true_iff]
    rintro ⟨p, found, nonempty, _⟩
    exact pathless p ⟨found, nonempty⟩
  | some path' =>
    obtain ⟨found, nonempty⟩ := itemPath?_eq_some_iff.mp path
    simp only [Option.isNone_iff_eq_none, firstMatch?_applicableEntries_eq_none_iff]
    constructor
    · rintro missed ⟨p, found', _, u, unit, active, matched⟩
      rw [found] at found'
      cases found'
      exact missed u unit active matched
    · intro shown u unit active matched
      exact shown ⟨path', found, nonempty, u, unit, active, matched⟩

/-! ## Counts -/

/-- The count of all records, if it is an integer of 64 bits with sign. -/
def total? (body : Value) : Option Int :=
  (body.get? "TotalRecordCount").bind Value.int64?

/-- An integer of 64 bits with sign. -/
def FitsWord (n : Int) : Prop :=
  Text.int64Min ≤ n ∧ n ≤ Text.int64Max

/-- What becomes of the members of a listing when some items are hidden. -/
inductive Reduces (hidden : Nat) (ms : Members) : Except CountOverflow Members → Prop
  | uncounted (none : total? (.obj ms) = none) : Reduces hidden ms (.ok ms)
  | zero (counted : total? (.obj ms) = some 0) : Reduces hidden ms (.ok ms)
  | down {total : Int} (counted : total? (.obj ms) = some total) (other : total ≠ 0) (fits : FitsWord (total - hidden)) :
      Reduces hidden ms (.ok (Members.insert totalKey (.int (total - hidden)) ms))
  | overflow {total : Int} (counted : total? (.obj ms) = some total) (other : total ≠ 0)
      (exceeds : ¬ FitsWord (total - hidden)) : Reduces hidden ms (.error ⟨total, hidden⟩)

theorem reduce_of_fitsWord {total : Int} {hidden : Nat} (fits : FitsWord (total - hidden)) :
    reduce total hidden = .ok (total - hidden) :=
  if_pos fits

theorem reduce_of_not_fitsWord {total : Int} {hidden : Nat} (exceeds : ¬ FitsWord (total - hidden)) :
    reduce total hidden = .error ⟨total, hidden⟩ :=
  if_neg exceeds

theorem reduces_reduceTotal (hidden : Nat) (ms : Members) : Reduces hidden ms (reduceTotal hidden ms) := by
  rw [reduceTotal]
  cases counted : (Members.get? totalKey ms).bind Value.int64? with
  | none => exact .uncounted counted
  | some total =>
    dsimp only
    by_cases zero : total = 0
    · rw [if_pos zero]
      exact .zero (zero ▸ counted)
    · rw [if_neg zero]
      by_cases fits : FitsWord (total - hidden)
      · rw [reduce_of_fitsWord fits]
        exact .down counted zero fits
      · rw [reduce_of_not_fitsWord fits]
        exact .overflow counted zero fits

/-- A count that goes down does not touch the items. -/
theorem Reduces.get?_items {hidden : Nat} {ms ms' : Members} (reduces : Reduces hidden ms (.ok ms')) :
    Members.get? itemsKey ms' = Members.get? itemsKey ms := by
  cases reduces with
  | uncounted | zero => rfl
  | down => rw [Members.get?_insert, if_neg (by decide)]

/-! ## What hiding leaves -/

variable {ctx : Context} {entries : List Entry} {view : Option View} {mainItem : Option String} {body : Value}
  {ms : Members} {items kept : List Value}

theorem hide_of_unlisted (unlisted : items? body = none) :
    hide ctx entries view mainItem body = (body, .ok ⟨0, 0⟩) := by
  cases body with
  | obj ms =>
    have none : (Members.get? itemsKey ms).bind Value.arr? = none := unlisted
    simp only [hide, none]
  | _ => rfl

/-- A listing keeps the items that stay visible, and its count goes down by the number of the others, if it
can. -/
theorem hide_of_listed (listed : items? (.obj ms) = some items)
    (filtered : items.filter (staysVisible ctx (applicableEntries ctx entries view mainItem)) = kept) :
    let put := Members.insert itemsKey (.arr kept) ms
    let reduced := reduceTotal (items.length - kept.length) put
    hide ctx entries view mainItem (.obj ms) =
      (.obj (reduced.toOption.getD put), reduced.map fun _ => ⟨items.length - kept.length, kept.length⟩) := by
  intro put reduced
  have read : (Members.get? itemsKey ms).bind Value.arr? = some items := listed
  simp only [hide, read, filtered, put, reduced]
  cases reduceTotal (items.length - kept.length) (Members.insert itemsKey (.arr kept) ms) <;> rfl

theorem exists_members_of_items? (listed : items? body = some items) : ∃ ms, body = .obj ms := by
  cases body with
  | obj ms => exact ⟨ms, rfl⟩
  | _ => cases listed

theorem items?_insert_items (items : List Value) (ms : Members) :
    items? (.obj (Members.insert itemsKey (.arr items) ms)) = some items := by
  rw [items?, Value.get?, Members.get?_insert, if_pos rfl]
  rfl

/-- Whether its count can go down or not, a listing is left with its items. -/
theorem items?_reduceTotal (hidden : Nat) (listed : items? (.obj ms) = some items) :
    items? (.obj ((reduceTotal hidden ms).toOption.getD ms)) = some items := by
  have reduces := reduces_reduceTotal hidden ms
  cases reduced : reduceTotal hidden ms with
  | error overflow => exact listed
  | ok ms' =>
    rw [reduced] at reduces
    exact (congrArg (·.bind Value.arr?) reduces.get?_items).trans listed

/-- Hiding keeps exactly the items that have no path or a path that no unit matches but exempt ones,
as they are and in their order. -/
theorem items?_hide (ctx : Context) (entries : List Entry) (view : Option View) (mainItem : Option String)
    (body : Value) :
    ∃ shown : Value → Bool, (∀ item, shown item = true ↔ ¬ Hidden ctx entries view mainItem item) ∧
      items? (hide ctx entries view mainItem body).1 = (items? body).map (List.filter shown) := by
  refine ⟨staysVisible ctx (applicableEntries ctx entries view mainItem), staysVisible_iff, ?_⟩
  cases listed : items? body with
  | none => rw [hide_of_unlisted listed, listed, Option.map_none]
  | some items =>
    obtain ⟨ms, rfl⟩ := exists_members_of_items? listed
    rw [hide_of_listed listed rfl]
    exact items?_reduceTotal _ (items?_insert_items _ ms)

end Listing

end StreamPolicy
