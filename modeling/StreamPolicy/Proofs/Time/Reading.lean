import Mathlib.Data.List.TakeWhile
import StreamPolicy.Proofs.Text.Integer
import StreamPolicy.Time.Reading

/-!
# Points in time read back

What is written for a point in time is read as that point in time, also a leap second and a year that
needs its sign.
-/

namespace StreamPolicy.Time

open StreamPolicy.Text

/-! ## Padded numbers -/

namespace Timestamp

theorem padded_eq (width n : Nat) :
    padded width n = List.replicate (width - (Nat.toDigits 10 n).length) '0' ++ Nat.toDigits 10 n := by
  rw [padded, toList_ofNat]

theorem isDigit_of_mem_padded {width n : Nat} {c : Char} (member : c ∈ padded width n) : c.isDigit = true := by
  rw [padded_eq] at member
  rcases List.mem_append.mp member with zero | digit
  · rw [List.eq_of_mem_replicate zero]
    rfl
  · exact isDigit_of_mem_toDigits digit

theorem natIn?_padded (width n : Nat) : natIn? 10 (padded width n) = some n := by
  rw [padded_eq, natIn?_zeros_toDigits]

/-- A number that is not too great fills its width. -/
theorem length_padded {width n : Nat} (some : 0 < width) (small : n < 10 ^ width) : (padded width n).length = width := by
  have fits := (Nat.length_toDigits_le_iff (b := 10) (by decide) some).mpr small
  rw [padded_eq, List.length_append, List.length_replicate]
  omega

theorem padded_ne_nil (width n : Nat) : padded width n ≠ [] := by
  rw [padded_eq]
  simp [Nat.toDigits_ne_nil]

end Timestamp

namespace Scan

open Timestamp

theorem isDigit_of_isDigit {c : Char} (digit : c.isDigit = true) : isDigit c = true := by
  have range := range_of_isDigit digit
  simp [isDigit, digit?, range]

theorem isBlank_of_isDigit {c : Char} (digit : c.isDigit = true) : isBlank c = false := by
  have range := range_of_isDigit digit
  have low : 48 ≤ c.toNat := UInt32.le_iff_toNat_le.mp range.1
  have high : c.toNat ≤ 57 := UInt32.le_iff_toNat_le.mp range.2
  simp only [isBlank, Bool.or_eq_false_iff, Bool.and_eq_false_iff, decide_eq_false_iff_not]
  omega

/-! ## Steps of reading -/

theorem run_mark (c : Char) (rest : List Char) : (mark c).run (c :: rest) = some ((), rest) := by
  simp [mark, StateT.run]

theorem run_blanks {c : Char} (plain : isBlank c = false) (rest : List Char) :
    blanks.run (c :: rest) = some ((), c :: rest) := by
  simp [blanks, plain]

/-- Digits are read up to the greatest number of them, or up to another character. -/
theorem run_digits {ds rest : List Char} {most : Nat} (digit : ∀ c ∈ ds, c.isDigit = true) (some : ds ≠ [])
    (fits : ds.length ≤ most) (ends : ds.length = most ∨ ∀ c ∈ rest.head?, isDigit c = false) :
    (digits most).run (ds ++ rest) = .some (ds, rest) := by
  have none : (rest.take (most - ds.length)).takeWhile isDigit = [] := by
    rcases ends with full | foreign
    · simp [full]
    · cases rest with
      | nil => simp
      | cons c rest => cases most - ds.length <;> simp [foreign c rfl]
  have taken : ((ds ++ rest).take most).takeWhile isDigit = ds := by
    have whole : ds.takeWhile isDigit = ds :=
      List.takeWhile_eq_self_iff.mpr fun c member => isDigit_of_isDigit (digit c member)
    rw [List.take_append, List.take_of_length_le fits, List.takeWhile_append, whole, if_pos rfl, none, List.append_nil]
  show (if (((ds ++ rest).take most).takeWhile isDigit).isEmpty then _ else _) = _
  rw [taken, if_neg (by simpa using some), List.drop_left]

theorem run_digits_padded {width n : Nat} (some : 0 < width) (small : n < 10 ^ width) (rest : List Char) :
    (digits width).run (padded width n ++ rest) = .some (padded width n, rest) :=
  run_digits (fun _ => isDigit_of_mem_padded) (padded_ne_nil width n) (Nat.le_of_eq (length_padded some small))
    (.inl (length_padded some small))

theorem value_padded (width n : Nat) : value (padded width n) = n := by
  rw [value, natIn?_padded, Option.getD_some]

theorem run_blanks_padded (width n : Nat) (rest : List Char) :
    blanks.run (padded width n ++ rest) = some ((), padded width n ++ rest) := by
  cases written : padded width n with
  | nil => exact absurd written (padded_ne_nil width n)
  | cons c cs =>
    have digit : c.isDigit = true := isDigit_of_mem_padded (by rw [written]; exact List.mem_cons_self)
    exact run_blanks (isBlank_of_isDigit digit) _

theorem run_short {n : Nat} (small : n < 100) (rest : List Char) : short.run (padded 2 n ++ rest) = some (n, rest) := by
  have read := run_digits_padded (by decide) (show n < 10 ^ 2 from small) rest
  simp [short, run_blanks_padded, read, value_padded]

theorem padded_append_ne {width n : Nat} {c : Char} (mark : c.isDigit = false) (a b : List Char) :
    padded width n ++ a ≠ c :: b := by
  cases written : padded width n with
  | nil => exact absurd written (padded_ne_nil width n)
  | cons d ds =>
    have digit : d.isDigit = true := isDigit_of_mem_padded (by rw [written]; exact List.mem_cons_self)
    intro same
    rw [(List.cons_eq_cons.mp same).1, mark] at digit
    cases digit

/-- A year is read up to the hyphen behind it. -/
theorem run_year (y : Int) (rest : List Char) :
    year.run (yearChars y ++ '-' :: rest) = some (y, '-' :: rest) := by
  rw [yearChars]
  split
  next plain =>
    simp only [Bool.and_eq_true, decide_eq_true_eq] at plain
    have read : (digits 4).run (padded 4 y.toNat ++ '-' :: rest) = some (padded 4 y.toNat, '-' :: rest) :=
      run_digits_padded (by decide) (by omega) _
    simp only [year, StateT.run_bind, run_blanks_padded, StateT.run_get, Option.pure_def, Option.bind_eq_bind,
      Option.bind_some]
    split
    next same => exact absurd same (padded_append_ne (by decide) _ _)
    next same => exact absurd same (padded_append_ne (by decide) _ _)
    next =>
      simp [read, value_padded]
      omega
  next signed =>
    have foreign : ∀ c ∈ ('-' :: rest).head?, isDigit c = false := by
      rintro c head
      cases head
      decide
    have read : (digits (padded 4 y.natAbs ++ '-' :: rest).length).run (padded 4 y.natAbs ++ '-' :: rest) =
        some (padded 4 y.natAbs, '-' :: rest) :=
      run_digits (fun _ => isDigit_of_mem_padded) (padded_ne_nil 4 _) (by simp) (.inr foreign)
    rw [List.length_append, List.length_cons] at read
    by_cases negative : y < 0
    · have sign := run_blanks (show isBlank '-' = false by decide) (padded 4 y.natAbs ++ '-' :: rest)
      simp [year, negative, sign, read, value_padded]
      rw [abs_of_neg negative, neg_neg]
    · have sign := run_blanks (show isBlank '+' = false by decide) (padded 4 y.natAbs ++ '-' :: rest)
      simp [year, negative, sign, read, value_padded]
      omega

theorem run_fraction {nano : Nat} (small : nano < 1000000000) (rest : List Char) :
    fraction.run (fractionChars nano ++ 'Z' :: rest) = some (nano, 'Z' :: rest) := by
  have read {width n : Nat} (some : 0 < width) (most : width ≤ 9) (small : n < 10 ^ width) :
      fraction.run ('.' :: padded width n ++ 'Z' :: rest) = .some (n * 10 ^ (9 - width), 'Z' :: rest) := by
    have read : (digits 9).run (padded width n ++ 'Z' :: rest) = .some (padded width n, 'Z' :: rest) :=
      run_digits (fun _ => isDigit_of_mem_padded) (padded_ne_nil width n) (by rw [length_padded some small]; exact most)
        (.inr (by simp; decide))
    simp [fraction, read, value_padded, length_padded some small]
    decide
  rw [fractionChars]
  split
  next zero => 
    rw [zero]
    rfl
  split
  next milli =>
    rw [read (by decide) (by decide) (by omega)]
    simp
    omega
  split
  next micro =>
    rw [read (by decide) (by decide) (by omega)]
    simp
    omega
  · rw [read (by decide) (by decide) small]
    simp

theorem run_date (d : Date) (rest : List Char) :
    date.run (yearChars d.year ++ '-' :: (padded 2 d.month ++ '-' :: (padded 2 d.day ++ rest))) = some (d, rest) := by
  have month := d.month_mem
  have day : d.day < 100 := by
    have most := d.day_mem.2
    have longest : daysIn d.year d.month ≤ 31 := by
      unfold daysIn
      repeat' split
      all_goals decide
    omega
  have hyphen := fun rest => run_blanks (c := '-') (by decide) rest
  simp [date, run_year, hyphen, run_mark, run_short (show d.month < 100 by omega), run_short day, Date.ofParts?_eq]

theorem run_time (t : TimeOfDay) (rest : List Char) :
    time.run (padded 2 t.hour ++ ':' :: (padded 2 t.minute ++ ':' :: (padded 2 t.second ++
      (fractionChars t.nano ++ 'Z' :: rest)))) = some (t, 'Z' :: rest) := by
  have hour := t.hour_lt
  have minute := t.minute_lt
  have second := t.second_le
  have colon := fun rest => run_blanks (c := ':') (by decide) rest
  have zulu := fun rest => run_blanks (c := 'Z') (by decide) rest
  simp [time, colon, zulu, run_mark, run_short (show t.hour < 100 by omega), run_short (show t.minute < 100 by omega),
    run_short (show t.second < 100 by omega), run_fraction t.nano_lt, TimeOfDay.ofParts?_eq]

theorem run_offset (rest : List Char) : offsetWithinDay.run ('Z' :: rest) = some (0, rest) := by
  rfl

end Scan

namespace Timestamp

theorem ofLocal?_zero (t : Timestamp) : ofLocal? t.date t.time 0 = some t := by
  have hour := t.time.hour_lt
  have minute := t.time.minute_lt
  have back : TimeOfDay.ofParts? t.time.hour t.time.minute t.time.second t.time.nano = some t.time :=
    TimeOfDay.ofParts?_eq t.time
  have minutes : (t.time.hour * 60 + t.time.minute : Int) - 0 = (t.time.hour * 60 + t.time.minute : Nat) := by omega
  have within : (((t.time.hour * 60 + t.time.minute : Nat) : Int) % 1440).toNat = t.time.hour * 60 + t.time.minute := by
    omega
  have hours : (t.time.hour * 60 + t.time.minute) / 60 = t.time.hour := by omega
  have rest : (t.time.hour * 60 + t.time.minute) % 60 = t.time.minute := by omega
  simp only [ofLocal?]
  rw [minutes, if_neg (by omega), if_pos (by omega), within, hours, rest, back]

/-- What is written for a point in time is read as that point in time. -/
theorem parse?_text (t : Timestamp) : parse? t.text = some t := by
  have date := fun rest => Scan.run_date t.date ('T' :: rest)
  have zulu : ∀ rest, Scan.separator.run ('T' :: rest) = some ((), rest) := fun rest => rfl
  have ended : Scan.blanks.run [] = some ((), []) := rfl
  simp only [parse?, text, String.toList_ofList, chars, List.append_assoc, List.cons_append]
  simp [Scan.timestamp, date, zulu, Scan.run_time, Scan.run_offset, ofLocal?_zero, ended]

end Timestamp

end StreamPolicy.Time
