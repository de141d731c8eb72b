import Gradebook.Text.Decimal
import Gradebook.Time.Zone

/-!
# Written time zones

A zone is written as the POSIX variable TZ: a name and an offset west of universal time, then, for
a zone with daylight time, its name, its offset if it is not one hour east of the standard, and
the two days and times of the change.
-/

namespace Gradebook.Time.Zone

def isNameChar (c : Char) : Bool :=
  c.isAlphanum || c == '+' || c == '-'

def isName (s : List Char) : Bool :=
  3 ≤ s.length && s.length ≤ 7 && s.all isNameChar

/-- What follows a name, which is letters or stands in angle brackets. -/
def afterName? (s : List Char) : Option (List Char) :=
  match s with
  | '<' :: rest =>
    match rest.dropWhile (· ≠ '>') with
    | _ :: after => if isName (rest.takeWhile (· ≠ '>')) then some after else none
    | [] => none
  | _ => if isName (s.takeWhile Char.isAlpha) then some (s.dropWhile Char.isAlpha) else none

def readNumber? (s : List Char) : Option (Nat × List Char) :=
  Text.number? s.length s

def readColonNumber? (s : List Char) : Option (Nat × List Char) :=
  match s with
  | ':' :: rest => readNumber? rest
  | _ => some (0, s)

/-- Hours up to 24, with minutes and seconds after colons, in seconds. -/
def readClock? (s : List Char) : Option (Nat × List Char) := do
  let (hours, s) ← readNumber? s
  let (minutes, t) ← readColonNumber? s
  let (seconds, t) ← if s.head? = some ':' then readColonNumber? t else some (0, t)
  if hours ≤ 24 && minutes < 60 && seconds < 60 then
    some (3600 * hours + 60 * minutes + seconds, t)
  else none

def isOffset (n : Int) : Bool :=
  n.natAbs < secondsPerDay

/-- An offset, written west of universal time and read east of it. -/
def readOffset? (s : List Char) : Option (Int × List Char) :=
  match s with
  | '-' :: rest => (readClock? rest).map fun (n, r) => ((n : Int), r)
  | '+' :: rest => (readClock? rest).map fun (n, r) => (-(n : Int), r)
  | _ => (readClock? s).map fun (n, r) => (-(n : Int), r)

def skip? (c : Char) (s : List Char) : Option (List Char) :=
  match s with
  | d :: rest => if c = d then some rest else none
  | [] => none

def readDay? (s : List Char) : Option (YearDay × List Char) :=
  match s with
  | 'M' :: rest => do
    let (month, s) ← readNumber? rest
    let s ← skip? '.' s
    let (week, s) ← readNumber? s
    let s ← skip? '.' s
    let (weekday, s) ← readNumber? s
    if 1 ≤ month && month ≤ 12 && 1 ≤ week && week ≤ 5 && weekday ≤ 6 then
      some (.weekdayOf month week weekday, s)
    else none
  | 'J' :: rest => do
    let (n, s) ← readNumber? rest
    if 1 ≤ n && n ≤ 365 then some (.ordinal n, s) else none
  | _ => do
    let (n, s) ← readNumber? s
    if n ≤ 365 then some (.offset n, s) else none

/-- A day and the time of the change, two o'clock unless it is written. -/
def readChange? (s : List Char) : Option (Change × List Char) := do
  let (day, s) ← readDay? s
  match s with
  | '/' :: rest => (readClock? rest).map fun (time, r) => (⟨day, time⟩, r)
  | _ => some (⟨day, 7200⟩, s)

def read? (text : List Char) : Option Zone := do
  let (standard, s) ← readOffset? (← afterName? text)
  if !isOffset standard then none
  else if s = [] then some (fixed standard)
  else do
    let s ← afterName? s
    let (daylight, s) ← if s.head? = some ',' then some (standard + 3600, s) else readOffset? s
    let (start, s) ← readChange? (← skip? ',' s)
    let (stop, s) ← readChange? (← skip? ',' s)
    if s = [] && isOffset daylight then some (alternating standard daylight start stop) else none

def isMargin (c : Char) : Bool :=
  c == ' ' || c == '\t' || c == '\n' || c == '\x0c' || c == '\r'

/-- The zone that a text denotes, universal time for a text that denotes none. -/
def ofText (text : String) : Zone :=
  let s := text.toList.dropWhile isMargin
  (read? (s.reverse.dropWhile isMargin).reverse).getD utc

end Gradebook.Time.Zone
