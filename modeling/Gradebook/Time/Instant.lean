import Gradebook.Time.Calendar

/-!
# Instants

An instant of universal time to the nanosecond.  Seconds are counted from 1970-01-01T00:00:00Z;
the nanosecond count runs past one second only inside a leap second, which extends the last
second of a minute.  Instants are ordered by second and then by nanosecond.
-/

namespace Gradebook.Time

abbrev nanosPerSecond : Nat := 1000000000

abbrev secondsPerDay : Nat := 86400

/-- The first second of the earliest year, -262143. -/
abbrev firstSecond : Int := -8334601228800

/-- The last second of the latest year, 262142. -/
abbrev lastSecond : Int := 8210266876799

abbrev InRange (second : Int) (nano : Nat) : Prop :=
  firstSecond ≤ second ∧ second ≤ lastSecond ∧ nano < 2 * nanosPerSecond ∧
    (nanosPerSecond ≤ nano → second % 60 = 59)

/-- An instant of universal time. -/
structure Instant where
  second : Int
  nano : Nat
  inRange : InRange second nano
deriving DecidableEq

namespace Instant

def of? (second : Int) (nano : Nat) : Option Instant :=
  if h : InRange second nano then some ⟨second, nano, h⟩ else none

def epoch : Instant := ⟨0, 0, by decide⟩

def earliest : Instant := ⟨firstSecond, 0, by decide⟩

def latest : Instant := ⟨lastSecond, 999999999, by decide⟩

instance : Inhabited Instant := ⟨epoch⟩

def before (a b : Instant) : Bool :=
  a.second < b.second || (a.second == b.second && a.nano < b.nano)

instance : LT Instant := ⟨fun a b => a.before b = true⟩
instance : LE Instant := ⟨fun a b => b.before a = false⟩
instance (a b : Instant) : Decidable (a < b) := inferInstanceAs (Decidable (a.before b = true))
instance (a b : Instant) : Decidable (a ≤ b) := inferInstanceAs (Decidable (b.before a = false))

def later (a b : Instant) : Instant :=
  if a.before b then b else a

def dayNumber (t : Instant) : Int :=
  t.second / secondsPerDay

def secondOfDay (t : Instant) : Nat :=
  (t.second % secondsPerDay).toNat

/-- A second and a nanosecond count with a carry of at most one second taken from or added to
the seconds. -/
def carry (second nano : Int) : Int × Int :=
  if nano < 0 then (second - 1, nano + nanosPerSecond)
  else if nanosPerSecond ≤ nano then (second + 1, nano - nanosPerSecond)
  else (second, nano)

/-- Second and nanosecond counts after a span of whole seconds and remaining nanoseconds of the
same sign.  A span that leaves a leap second forwards counts it as an ordinary second, one that
leaves it by whole seconds backwards counts from the second after it, and one that does neither
stays in the same minute. -/
def advance (t : Instant) (seconds nanos : Int) : Int × Int :=
  if t.nano < nanosPerSecond then carry (t.second + seconds) (t.nano + nanos)
  else if 0 < seconds ∨ (0 < nanos ∧ (2 * nanosPerSecond : Int) ≤ t.nano + nanos) then
    carry (t.second + seconds) (t.nano - nanosPerSecond + nanos)
  else if seconds < 0 then carry (t.second + 1 + seconds) (t.nano - nanosPerSecond + nanos)
  else (t.second, t.nano + nanos)

/-- The instant a span of nanoseconds later, or earlier for a negative span.  The ends of the
range are not passed. -/
def shift (t : Instant) (span : Int) : Instant :=
  let (second, nano) := t.advance (span.tdiv nanosPerSecond) (span.tmod nanosPerSecond)
  match of? second nano.toNat with
  | some u => u
  | none => if span < 0 then earliest else latest

end Instant

end Gradebook.Time
