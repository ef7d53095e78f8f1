import StreamPolicy.Text.Integer

/-!
# Points in time

Dates are days of the proleptic Gregorian calendar, in a wide but bounded range of years; a date is
always a day that exists. A point in time is a date and a time of day in UTC, down to nanoseconds. The
second 60 is a leap second. It is written with as many digits behind the point as it needs, in groups of
three; a year outside 0 to 9999 is written with its sign.
-/

namespace StreamPolicy.Time

/-! ## Dates -/

/-- A year with a day in February more than usual. -/
def isLeap (year : Int) : Bool :=
  year % 4 = 0 && (year % 100 ≠ 0 || year % 400 = 0)

def daysIn (year : Int) (month : Nat) : Nat :=
  if month = 2 then if isLeap year then 29 else 28
  else if month = 4 ∨ month = 6 ∨ month = 9 ∨ month = 11 then 30
  else 31

def minYear : Int := -262143

def maxYear : Int := 262142

structure Date where
  year : Int
  month : Nat
  day : Nat
  year_mem : minYear ≤ year ∧ year ≤ maxYear
  month_mem : 1 ≤ month ∧ month ≤ 12
  day_mem : 1 ≤ day ∧ day ≤ daysIn year month
  deriving DecidableEq

namespace Date

/-- The date of a year, a month and a day, if there is one. -/
def ofParts? (year : Int) (month day : Nat) : Option Date :=
  if h : (minYear ≤ year ∧ year ≤ maxYear) ∧ (1 ≤ month ∧ month ≤ 12) ∧
      (1 ≤ day ∧ day ≤ daysIn year month) then
    some ⟨year, month, day, h.1, h.2.1, h.2.2⟩
  else none

def next? (d : Date) : Option Date :=
  (ofParts? d.year d.month (d.day + 1)).or
    ((ofParts? d.year (d.month + 1) 1).or (ofParts? (d.year + 1) 1 1))

def previous? (d : Date) : Option Date :=
  (ofParts? d.year d.month (d.day - 1)).or
    ((ofParts? d.year (d.month - 1) (daysIn d.year (d.month - 1))).or
      (ofParts? (d.year - 1) 12 31))

theorem ofParts?_eq (d : Date) : ofParts? d.year d.month d.day = some d := by
  simp [ofParts?, d.year_mem, d.month_mem, d.day_mem]

end Date

/-! ## Times -/

structure TimeOfDay where
  hour : Nat
  minute : Nat
  /-- The second; 60 is a leap second. -/
  second : Nat
  nano : Nat
  hour_lt : hour < 24
  minute_lt : minute < 60
  second_le : second ≤ 60
  nano_lt : nano < 1000000000
  deriving DecidableEq

def TimeOfDay.ofParts? (hour minute second nano : Nat) : Option TimeOfDay :=
  if h : hour < 24 ∧ minute < 60 ∧ second ≤ 60 ∧ nano < 1000000000 then
    some ⟨hour, minute, second, nano, h.1, h.2.1, h.2.2.1, h.2.2.2⟩
  else none

theorem TimeOfDay.ofParts?_eq (t : TimeOfDay) :
    ofParts? t.hour t.minute t.second t.nano = some t := by
  simp [ofParts?, t.hour_lt, t.minute_lt, t.second_le, t.nano_lt]

structure Timestamp where
  date : Date
  time : TimeOfDay
  deriving DecidableEq

namespace Timestamp

def epoch : Timestamp :=
  ⟨⟨1970, 1, 1, by decide, by decide, by decide⟩,
    ⟨0, 0, 0, 0, by decide, by decide, by decide, by decide⟩⟩

/-- The decimal digits of a number with zeros in front up to a width. -/
def padded (width n : Nat) : List Char :=
  let digits := (Text.ofNat n).toList
  List.replicate (width - digits.length) '0' ++ digits

/-- A year: four digits, and a sign outside 0 to 9999. -/
def yearChars (year : Int) : List Char :=
  if 0 ≤ year && year ≤ 9999 then padded 4 year.toNat
  else (if year < 0 then '-' else '+') :: padded 4 year.natAbs

/-- The part of a second: nothing, or a point and three, six or nine digits. -/
def fractionChars (nano : Nat) : List Char :=
  if nano = 0 then []
  else if nano % 1000000 = 0 then '.' :: padded 3 (nano / 1000000)
  else if nano % 1000 = 0 then '.' :: padded 6 (nano / 1000)
  else '.' :: padded 9 nano

def chars (t : Timestamp) : List Char :=
  yearChars t.date.year ++ '-' :: padded 2 t.date.month ++ '-' :: padded 2 t.date.day ++
    'T' :: padded 2 t.time.hour ++ ':' :: padded 2 t.time.minute ++ ':' :: padded 2 t.time.second ++
    fractionChars t.time.nano ++ ['Z']

def text (t : Timestamp) : String :=
  String.ofList t.chars

/-- The point in time at which clocks some minutes ahead of UTC show a date and a time. -/
def ofLocal? (date : Date) (time : TimeOfDay) (ahead : Int) : Option Timestamp :=
  let minutes := (time.hour * 60 + time.minute : Int) - ahead
  let date? := if minutes < 0 then date.previous? else if minutes < 1440 then some date else date.next?
  let minuteOfDay := (minutes % 1440).toNat
  match date?, TimeOfDay.ofParts? (minuteOfDay / 60) (minuteOfDay % 60) time.second time.nano with
  | some date, some time => some ⟨date, time⟩
  | _, _ => none

end Timestamp

/-! ## Clock readings -/

/-- How many days there are from the first of March of the year 0 to the start of a clock. -/
def daysBeforeEpoch : Int := 719468

def Date.ofDays? (days : Int) : Option Date :=
  let d := days + daysBeforeEpoch
  let era := d / 146097
  let inEra := d % 146097
  let yearInEra := (inEra - inEra / 1460 + inEra / 36524 - inEra / 146096) / 365
  let inYear := inEra - (365 * yearInEra + yearInEra / 4 - yearInEra / 100)
  let shifted := (5 * inYear + 2) / 153
  let day := inYear - (153 * shifted + 2) / 5 + 1
  let month := if shifted < 10 then shifted + 3 else shifted - 9
  let year := yearInEra + era * 400 + if month ≤ 2 then 1 else 0
  ofParts? year month.toNat day.toNat

def Timestamp.ofNanoseconds? (n : Int) : Option Timestamp := do
  let seconds := n / 1000000000
  let inDay := (seconds % 86400).toNat
  let date ← Date.ofDays? (seconds / 86400)
  let time ← TimeOfDay.ofParts? (inDay / 3600) (inDay / 60 % 60) (inDay % 60)
    (n % 1000000000).toNat
  return ⟨date, time⟩

end StreamPolicy.Time
