import Gradebook.Text.Blank
import Gradebook.Text.Decimal
import Gradebook.Time.Instant

/-!
# Written instants

Instants are written in the format of RFC 3339 in universal time, with as many digits of the
fraction as are exact: none, three, six or nine.  Years outside 0 to 9999 carry a sign, and a leap
second is written as second 60.

Reading is wider than writing.  It allows white space in front of each number and separator, short
numbers, any number of fraction digits (those past the ninth are dropped), a small `t` or a space
between date and time, and any offset below a day, which is taken off.
-/

namespace Gradebook.Time

open Gradebook.Text

/-- A year: four digits, with a sign outside 0 to 9999. -/
def writeYear (year : Int) : List Char :=
  if 0 ≤ year ∧ year ≤ 9999 then padded 4 year.toNat
  else (if year < 0 then '-' else '+') :: padded 4 year.natAbs

/-- The fraction of a second, with the fewest of three, six or nine digits that are exact. -/
def writeFraction (nano : Nat) : List Char :=
  if nano = 0 then []
  else if nano % 1000000 = 0 then '.' :: padded 3 (nano / 1000000)
  else if nano % 1000 = 0 then '.' :: padded 6 (nano / 1000)
  else '.' :: padded 9 nano

def writeDate (d : Date) : List Char :=
  writeYear d.year ++ '-' :: padded 2 d.month ++ '-' :: padded 2 d.day

def Instant.write (t : Instant) : List Char :=
  let second := t.secondOfDay
  let leap := t.nano / nanosPerSecond
  writeDate (.ofDayNumber t.dayNumber) ++ 'T' :: padded 2 (second / 3600) ++
    ':' :: padded 2 (second / 60 % 60) ++ ':' :: padded 2 (second % 60 + leap) ++
    writeFraction (t.nano % nanosPerSecond) ++ ['Z']

instance : ToString Instant := ⟨fun t => String.ofList t.write⟩

/-- The first character must be the given one; white space in front of it is passed over. -/
def expect? (c : Char) (s : List Char) : Option (List Char) :=
  match trimStartOf s with
  | d :: rest => if c = d then some rest else none
  | [] => none

def spacedNumber? (width : Nat) (s : List Char) : Option (Nat × List Char) :=
  number? width (trimStartOf s)

/-- A year after white space: a sign and any number of digits, or up to four digits. -/
def readYear? (s : List Char) : Option (Int × List Char) :=
  match trimStartOf s with
  | '-' :: rest => (number? rest.length rest).map fun (n, r) => (-(n : Int), r)
  | '+' :: rest => (number? rest.length rest).map fun (n, r) => ((n : Int), r)
  | t => (number? 4 t).map fun (n, r) => ((n : Int), r)

def readFraction? (s : List Char) : Option (Nat × List Char) :=
  match s with
  | '.' :: rest => do
    let ds := (rest.take 9).takeWhile Char.isDigit
    if ds = [] then none
    else some (digitsValue ds * tenTo (9 - ds.length), (digitRun rest).2)
  | _ => some (0, s)

def twoDigits? (firstLimit : Char) (s : List Char) : Option (Nat × List Char) :=
  match s with
  | a :: b :: rest =>
    if a.isDigit && b.isDigit && a.val ≤ firstLimit.val then some (digitsValue [a, b], rest)
    else none
  | _ => none

def readOffset? (s : List Char) : Option (Int × List Char) :=
  match s with
  | 'Z' :: rest | 'z' :: rest => some (0, rest)
  | a :: b :: c :: rest =>
    if [a.toUpper, b.toUpper, c.toUpper] = ['U', 'T', 'C'] then some (0, rest)
    else do
      let sign : Int ← if a = '+' then some 1 else if a = '-' ∨ a = '−' then some (-1) else none
      let (hours, r) ← twoDigits? '9' (b :: c :: rest)
      let (minutes, r) ← twoDigits? '5' (r.dropWhile fun d => d = ':' || isBlank d)
      if hours < 24 then some (sign * (60 * hours + minutes : Nat), r) else none
  | _ => none

/-- The instant of a day, a time of day and an offset in minutes; second 60 is a leap second. -/
def Instant.ofCivil? (d : Date) (hour minute second nano : Nat) (offset : Int) : Option Instant :=
  if d.isValid && firstSecond ≤ d.dayNumber * secondsPerDay
      && d.dayNumber * secondsPerDay ≤ lastSecond
      && hour < 24 && minute < 60 && second ≤ 60 then
    let ofMinute := min second 59
    let leap := second - ofMinute
    let ofDay := 3600 * hour + 60 * minute + ofMinute
    Instant.of? (d.dayNumber * secondsPerDay + ofDay - 60 * offset)
      (leap * nanosPerSecond + nano)
  else none

def Instant.read? (text : List Char) : Option Instant := do
  let (year, s) ← readYear? text
  let s ← expect? '-' s
  let (month, s) ← spacedNumber? 2 s
  let s ← expect? '-' s
  let (day, s) ← spacedNumber? 2 s
  let s ← match s with
    | 'T' :: rest | 't' :: rest | ' ' :: rest => some rest
    | _ => none
  let (hour, s) ← spacedNumber? 2 s
  let s ← expect? ':' s
  let (minute, s) ← spacedNumber? 2 s
  let s ← expect? ':' s
  let (second, s) ← spacedNumber? 2 s
  let (nano, s) ← readFraction? s
  let (offset, s) ← readOffset? (trimStartOf s)
  if s.all isBlank then Instant.ofCivil? ⟨year, month, day⟩ hour minute second nano offset else none

end Gradebook.Time
