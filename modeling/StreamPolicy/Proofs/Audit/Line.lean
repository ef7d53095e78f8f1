import StreamPolicy.Proofs.Audit.Journal
import StreamPolicy.Proofs.Json.Parts

/-!
# The line that an entry is written as

Writing an entry never fails on a log that has kept everything, and puts one line behind it. The line is
read as the entry, with its end or without, when the details of the entry are a value of whole numbers that
does not nest too deep; so what is read is written as the same line again.
-/

namespace StreamPolicy.Audit

open StreamPolicy.File (Place)
open StreamPolicy.Json
open StreamPolicy.Text

/-- Any writer that has kept everything so far takes an entry, and puts these bytes behind the rest. -/
def Entry.WrittenAs (e : Entry) (bytes : List UInt8) : Prop :=
  ∀ {w : Writer} {place : Place} {kept : List UInt8} {count : Nat}, w.Keeps place kept count →
    ∃ after, w.write e = (after, .ok ()) ∧ after.Keeps place (kept ++ bytes) (count + 1)

namespace Entry

variable {e : Entry}

theorem writtenAs_iff {bytes : List UInt8} : e.WrittenAs bytes ↔ bytes = e.line := by
  constructor
  · intro written
    have empty := Writer.keeps_empty "" []
    obtain ⟨after, done, keeps⟩ := written empty
    obtain ⟨after', done', keeps'⟩ := empty.write e
    cases done.symm.trans done'
    exact keeps.unique keeps'
  · rintro rfl _ _ _ _ keeps
    exact keeps.write e

theorem legible_of_whole (ordered : e.event.details.Ordered) (whole : e.event.details.Whole)
    (shallow : e.event.details.levels < maxDepth) : e.Legible :=
  ⟨ordered.sorted_eq, whole.legible (Nat.le_sub_one_of_lt shallow)⟩

/-- The end of its line is no part of an entry. -/
theorem readLine?_line (legible : e.Legible) : readLine? e.line = some e := by
  have stops : Stops ['\n'] := stops_cons (by decide) []
  have taken : outline.parse? (String.ofList (e.chars ++ ['\n'])) = some e.toJson :=
    Outline.parse?_compact_append (reads_toJson legible) stops (by decide)
  rw [readLine?, line, Utf8.decode?_encode, Option.bind_some, parse?, taken, Option.bind_some,
    ofJson?_toJson legible.ordered]

/-- An entry whose details are whole, in order and not too deep is written as one line, which is read as
the entry; and each entry that is read from it is written as it again. -/
theorem written_read (ordered : e.event.details.Ordered) (whole : e.event.details.Whole)
    (shallow : e.event.details.levels < maxDepth) :
    ∃ body, (∀ bytes, e.WrittenAs bytes ↔ bytes = body ++ [lineEnd]) ∧ lineEnd ∉ body ∧ readLine? body = some e ∧
      readLine? (body ++ [lineEnd]) = some e ∧
      ∀ back, readLine? (body ++ [lineEnd]) = some back → back.WrittenAs (body ++ [lineEnd]) := by
  have legible := legible_of_whole ordered whole shallow
  have read := readLine?_line legible
  rw [line_eq] at read
  refine ⟨e.body, fun bytes => ?_, e.lineEnd_not_mem_body, readLine?_body legible, read, fun back again => ?_⟩
  · rw [writtenAs_iff, line_eq]
  · obtain rfl : e = back := Option.some_inj.mp (read.symm.trans again)
    rw [writtenAs_iff, line_eq]

/-- An entry with line ends, quotes and control characters in its texts, and with the smallest and the largest
number that is whole. -/
theorem written_read_escaped :
    let details : Value := .obj [("a\n", .arr [.int (-9223372036854775808), .arr [.int 18446744073709551615, .obj []]]),
      ("b", .str "\"\\\x00\u007f\u2028")]
    let e : Entry := ⟨.zero, .epoch, ⟨.routeDecided, ⟨"gate\r\n", some "\u00e9", none⟩, details,
      some ⟨"proxy", none, "mount_path"⟩⟩⟩
    details.Ordered ∧ details.Whole ∧ details.levels < maxDepth ∧
    ∃ body, (∀ bytes, e.WrittenAs bytes ↔ bytes = body ++ [lineEnd]) ∧ lineEnd ∉ body ∧ readLine? body = some e ∧
      readLine? (body ++ [lineEnd]) = some e ∧
      ∀ back, readLine? (body ++ [lineEnd]) = some back → back.WrittenAs (body ++ [lineEnd]) := by
  intro details e
  have ordered : details.Ordered := by decide
  have whole : details.Whole := by decide
  have shallow : details.levels < maxDepth := by decide
  exact ⟨ordered, whole, shallow, written_read (e := e) ordered whole shallow⟩

end Entry

end StreamPolicy.Audit
