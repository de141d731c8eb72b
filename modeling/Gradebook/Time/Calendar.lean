/-!
# Calendar days

Days of the proleptic Gregorian calendar, counted from 1970-01-01.  A year is taken to begin in
March, so that the leap day is its last, and a day count splits into periods of 400 years, 100
years, 4 years and one year, each of which ends with its longest part.
-/

namespace Gradebook.Time

structure Date where
  year : Int
  month : Nat
  day : Nat
deriving DecidableEq, Repr

def isLeapYear (year : Int) : Bool :=
  year % 4 == 0 && (year % 100 != 0 || year % 400 == 0)

/-- The number of days of a month, zero for a month that does not exist. -/
def daysInMonth (year : Int) (month : Nat) : Nat :=
  match month with
  | 1 | 3 | 5 | 7 | 8 | 10 | 12 => 31
  | 4 | 6 | 9 | 11 => 30
  | 2 => if isLeapYear year then 29 else 28
  | _ => 0

def Date.isValid (d : Date) : Bool :=
  1 ≤ d.day && d.day ≤ daysInMonth d.year d.month

/-- Days from 1970-01-01 to the first of March of a year. -/
def marchFirst (year : Int) : Int :=
  365 * year + year / 4 - year / 100 + year / 400 - 719468

/-- Days from the first of March to the first of a month, months counted from March as zero. -/
def daysToMonth (month : Nat) : Nat :=
  (153 * month + 2) / 5

def Date.dayNumber (d : Date) : Int :=
  let year := if d.month ≤ 2 then d.year - 1 else d.year
  marchFirst year + daysToMonth ((d.month + 9) % 12) + d.day - 1

/-- The month, from March as zero, and the day of the month for a day counted from the first of
March. -/
def monthAndDay (dayOfYear : Nat) : Nat × Nat :=
  let month := (5 * dayOfYear + 2) / 153
  (month, dayOfYear - daysToMonth month + 1)

def Date.ofDayNumber (n : Int) : Date :=
  let shifted := n + 719468
  let era := shifted / 146097
  let inEra := (shifted % 146097).toNat
  let century := min (inEra / 36524) 3
  let inCentury := inEra - 36524 * century
  let leapCycle := inCentury / 1461
  let inCycle := inCentury - 1461 * leapCycle
  let yearOfCycle := min (inCycle / 365) 3
  let (month, day) := monthAndDay (inCycle - 365 * yearOfCycle)
  let year := 400 * era + (100 * century + 4 * leapCycle + yearOfCycle : Nat)
  if month < 10 then ⟨year, month + 3, day⟩ else ⟨year + 1, month - 9, day⟩

/-- The day of the week of a day number, Sunday as zero. -/
def weekday (n : Int) : Nat :=
  ((n + 4) % 7).toNat

end Gradebook.Time
