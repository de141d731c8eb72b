import Gradebook.Time.Rfc3339

/-!
# Time zones

A zone has one offset from universal time all year, or a standard and a daylight offset with a day
and a time at which each begins every year.  Each instant has one offset.  A local time may have
none, where a change skips it, or two, where a change repeats it.
-/

namespace Gradebook.Time

inductive YearDay where
  /-- A weekday (Sunday as zero) of a week of a month; week five is the last. -/
  | weekdayOf (month week weekday : Nat)
  /-- A day counted from one, the leap day never counted. -/
  | ordinal (n : Nat)
  /-- A day counted from zero, the leap day counted. -/
  | offset (n : Nat)
deriving DecidableEq

namespace YearDay

def dayNumber (d : YearDay) (year : Int) : Int :=
  let newYear := (Date.mk year 1 1).dayNumber
  match d with
  | weekdayOf month week weekday =>
    let first := (Date.mk year month 1).dayNumber
    let day := (weekday + 7 - Time.weekday first) % 7 + 7 * (week - 1)
    first + if day < daysInMonth year month then day else day - 7
  | ordinal n => newYear + n - 1 + if isLeapYear year && 60 ≤ n then 1 else 0
  | offset n => newYear + n

/-- The month of the day in a year; a day past the year's end counts to its last month. -/
def month (d : YearDay) (year : Int) : Nat :=
  let date := Date.ofDayNumber (d.dayNumber year)
  if date.year = year then date.month else 12

end YearDay

/-- When an offset begins: a day and the seconds after its midnight, in the local time that holds
until then. -/
structure Change where
  day : YearDay
  time : Nat
deriving DecidableEq

/-- The local second of a change in a year, counted as if local time were universal. -/
def Change.local (c : Change) (year : Int) : Int :=
  c.day.dayNumber year * secondsPerDay + c.time

/-- A time zone; offsets are seconds east of universal time. -/
inductive Zone where
  | fixed (offset : Int)
  | alternating (standard daylight : Int) (start stop : Change)
deriving DecidableEq

def yearOf (second : Int) : Int :=
  (Date.ofDayNumber (second / secondsPerDay)).year

namespace Zone

def utc : Zone := fixed 0

/-- Whether daylight time holds at a second, where it starts and stops at given seconds of the
years around. -/
def inDaylight (start stop : Int → Int) (second year : Int) : Bool :=
  if start year ≤ stop year then
    if second < start year then
      decide (second < stop (year - 1)) && decide (start (year - 1) ≤ second)
    else if second < stop year then true
    else decide (start (year + 1) ≤ second) && decide (second < stop (year + 1))
  else
    if second < stop year then
      decide (start (year - 1) ≤ second) || decide (second < stop (year - 1))
    else if second < start year then false
    else decide (second < stop (year + 1)) || decide (start (year + 1) ≤ second)

def offsetAt (z : Zone) (second : Int) : Int :=
  match z with
  | fixed offset => offset
  | alternating standard daylight start stop =>
    if inDaylight (start.local · - standard) (stop.local · - daylight) second (yearOf second)
    then daylight else standard

def localSecond (z : Zone) (t : Instant) : Int :=
  t.second + z.offsetAt t.second

def localDay (z : Zone) (t : Instant) : Int :=
  z.localSecond t / secondsPerDay

/-- The offsets that a local second may have, the preferred one first, in a year whose local time
skips ahead from the lesser to the greater offset at `toGreater` and falls back at `toLesser`, both
in the local time that holds until then; `skipFirst` tells which comes first in the year.  Of the
two offsets of a repeated time the lesser is preferred. -/
def offsetsBetween (lesser greater toLesser toGreater : Int) (skipFirst : Bool)
    (second : Int) : List Int :=
  let gap := greater - lesser
  if skipFirst then
    if second ≤ toGreater then [lesser]
    else if second < toGreater + gap then []
    else if second < toLesser - gap then [greater]
    else if second ≤ toLesser then [lesser, greater]
    else [lesser]
  else
    if second < toLesser - gap then [greater]
    else if second ≤ toLesser then [lesser, greater]
    else if second < toGreater then [lesser]
    else if second < toGreater + gap then []
    else [greater]

def offsetsOfLocal (z : Zone) (second : Int) : List Int :=
  match z with
  | fixed offset => [offset]
  | alternating standard daylight start stop =>
    let year := yearOf second
    let startFirst := start.day.month year < stop.day.month year
    if standard = daylight then [standard]
    else if standard < daylight then
      offsetsBetween standard daylight (stop.local year) (start.local year) startFirst second
    else
      offsetsBetween daylight standard (start.local year) (stop.local year) (!startFirst) second

/-- The instant at which the local day of an instant begins.  Where the zone skips that midnight,
it is midnight of universal time on the local date. -/
def dayStart (z : Zone) (now : Instant) : Instant :=
  let midnight := z.localDay now * secondsPerDay
  let offset := ((z.offsetsOfLocal midnight).head?).getD 0
  match Instant.of? (midnight - offset) 0 with
  | some t => t
  | none => if midnight < 0 then .earliest else .latest

end Zone

/-- The local time of an instant to the minute. -/
def Zone.writeMinute (z : Zone) (t : Instant) : String :=
  let second := z.localSecond t
  let ofDay := (second % secondsPerDay).toNat
  String.ofList (writeDate (.ofDayNumber (second / secondsPerDay)) ++ ' ' ::
    Text.padded 2 (ofDay / 3600) ++ ':' :: Text.padded 2 (ofDay / 60 % 60))

end Gradebook.Time
