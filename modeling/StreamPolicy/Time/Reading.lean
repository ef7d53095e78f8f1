import StreamPolicy.Text.Search
import StreamPolicy.Time.Timestamp

/-!
# Reading points in time

A date and a time are numbers with their usual marks between them, and an offset from UTC follows.
Numbers may be short, blanks may stand before numbers and marks, and a blank may stand for the `T`.
-/

namespace StreamPolicy.Time

/-- Reading takes characters off the front of a text. -/
abbrev Scan := StateT (List Char) Option

namespace Scan

def blanks : Scan Unit :=
  modify (·.dropWhile Text.isBlank)

def mark (c : Char) : Scan Unit := fun
  | d :: rest => if d = c then some ((), rest) else none
  | [] => none

def isDigit (c : Char) : Bool :=
  (Text.digit? c).isSome

/-- One to some greatest number of digits. -/
def digits (most : Nat) : Scan (List Char) := fun cs =>
  let ds := (cs.take most).takeWhile isDigit
  if ds.isEmpty then none else some (ds, cs.drop ds.length)

def value (ds : List Char) : Nat :=
  (Text.natIn? 10 ds).getD 0

def short : Scan Nat := do
  blanks
  return value (← digits 2)

/-- A year behind blanks: up to four digits, or any number of them behind a sign. -/
def year : Scan Int := do
  blanks
  let cs ← get
  match cs with
  | '-' :: rest =>
    set rest
    return -(value (← digits rest.length) : Int)
  | '+' :: rest =>
    set rest
    return value (← digits rest.length)
  | _ => return value (← digits 4)

/-- The part of a second, in nanoseconds: digits behind a point, of which nine count. -/
def fraction : Scan Nat := do
  match ← get with
  | '.' :: rest =>
    set rest
    let ds ← digits 9
    modify (·.dropWhile isDigit)
    return value ds * Nat.pow 10 (9 - ds.length)
  | _ => return 0

def pair : Scan Nat := do
  let ds ← digits 2
  if ds.length = 2 then return value ds else failure

def separator : Scan Unit := fun
  | 'T' :: rest => some ((), rest)
  | 't' :: rest => some ((), rest)
  | ' ' :: rest => some ((), rest)
  | _ => none

def clock : Scan Int := do
  let hours ← pair
  modify (·.dropWhile fun c => c = ':' || Text.isBlank c)
  let minutes ← pair
  if minutes < 60 then return hours * 60 + minutes else failure

/-- The minutes by which clocks are ahead of UTC. -/
def offset : Scan Int := do
  let cs ← get
  match cs with
  | 'Z' :: rest => set rest; return 0
  | 'z' :: rest => set rest; return 0
  | '+' :: rest => set rest; clock
  | '-' :: rest => set rest; return -(← clock)
  | '−' :: rest => set rest; return -(← clock)
  | _ =>
    if (cs.take 3).map Char.toUpper = ['U', 'T', 'C'] then
      set (cs.drop 3)
      return 0
    else failure

def offsetWithinDay : Scan Int := do
  let minutes ← offset
  if minutes.natAbs < 1440 then return minutes else failure

def date : Scan Date := do
  let y ← year
  blanks
  mark '-'
  let m ← short
  blanks
  mark '-'
  let d ← short
  liftM (Date.ofParts? y m d)

def time : Scan TimeOfDay := do
  let h ← short
  blanks
  mark ':'
  let m ← short
  blanks
  mark ':'
  let s ← short
  let nano ← fraction
  blanks
  liftM (TimeOfDay.ofParts? h m s nano)

def timestamp : Scan Timestamp := do
  let d ← date
  separator
  let t ← time
  let ahead ← offsetWithinDay
  blanks
  liftM (Timestamp.ofLocal? d t ahead)

end Scan

def Timestamp.parse? (s : String) : Option Timestamp :=
  match Scan.timestamp.run s.toList with
  | some (t, []) => some t
  | _ => none

end StreamPolicy.Time
