import Blueprint.Text.Blank
import Blueprint.Text.Digits

/-!
# Days and minutes

Gregorian days of the years 1000 to 9999 and minutes of a day: their lenient readers and their one
canonical text each. Blanks may stand before any number, day and month take one digit or two, and
only a year may carry a sign.
-/

namespace Blueprint.Calendar

structure Day where
  day : Nat
  month : Nat
  year : Nat
  deriving DecidableEq, Repr

structure Minute where
  hour : Nat
  minute : Nat
  deriving DecidableEq, Repr

def isLeap (year : Nat) : Bool := (year % 4 == 0 && year % 100 != 0) || year % 400 == 0

def daysIn (month year : Nat) : Nat :=
  if month = 2 then (if isLeap year then 29 else 28)
  else if month = 4 || month = 6 || month = 9 || month = 11 then 30
  else 31

def Day.valid (d : Day) : Bool :=
  1000 ≤ d.year && d.year ≤ 9999 && 1 ≤ d.month && d.month ≤ 12 &&
    1 ≤ d.day && d.day ≤ daysIn d.month d.year

def Minute.valid (m : Minute) : Bool := m.hour < 24 && m.minute < 60

/-! ### Writing -/

def Day.text (d : Day) : String :=
  Text.padded 2 d.day ++ "/" ++ Text.padded 2 d.month ++ "/" ++ Text.padded 4 d.year

def Minute.text (m : Minute) : String := Text.padded 2 m.hour ++ ":" ++ Text.padded 2 m.minute

def bothText (d : Day) (m : Minute) : String := d.text ++ " - " ++ m.text

/-! ### Reading -/

/-- Takes a number of at most `width` digits after any blanks. -/
def number? (width : Nat) (cs : List Char) : Option (Nat × List Char) :=
  let cs := Text.dropBlanks cs
  let ds := (cs.take width).takeWhile Text.isDigit
  (Text.natural? 10 ds).map fun n => (n, cs.drop ds.length)

/-- A year of at most four digits, or of any number of digits after a plus. -/
def year? (cs : List Char) : Option (Nat × List Char) :=
  match Text.dropBlanks cs with
  | '+' :: r =>
    let ds := r.takeWhile Text.isDigit
    (Text.natural? 10 ds).map fun n => (n, r.drop ds.length)
  | cs => number? 4 cs

def mark? (c : Char) : List Char → Option (List Char)
  | [] => none
  | d :: r => if d = c then some r else none

def takeDay? (cs : List Char) : Option (Day × List Char) := do
  let (day, r) ← number? 2 cs
  let r ← mark? '/' r
  let (month, r) ← number? 2 r
  let r ← mark? '/' r
  let (year, r) ← year? r
  return (⟨day, month, year⟩, r)

def takeMinute? (cs : List Char) : Option (Minute × List Char) := do
  let (hour, r) ← number? 2 cs
  let r ← mark? ':' r
  let (minute, r) ← number? 2 r
  return (⟨hour, minute⟩, r)

def day? (cs : List Char) : Option Day := do
  let (d, r) ← takeDay? cs
  if r.isEmpty && d.valid then some d else none

def minute? (cs : List Char) : Option Minute := do
  let (m, r) ← takeMinute? cs
  if r.isEmpty && m.valid then some m else none

/-- A day and a minute with a dash between them and blanks anywhere around it. -/
def both? (cs : List Char) : Option (Day × Minute) := do
  let (d, r) ← takeDay? cs
  let r ← mark? '-' (Text.dropBlanks r)
  let (m, r) ← takeMinute? r
  if r.isEmpty && d.valid && m.valid then some (d, m) else none

end Blueprint.Calendar
