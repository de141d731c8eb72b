import Gradebook.Time.Instant

/-!
# Sources of identity and time

Every record is given an identity and an instant when it is made.  Both come from a clock, which
is a value: drawing from it yields the clock that comes after.  The sequential clock numbers its
identities and steps its instants; it stands for time wherever records must be foreseeable.
-/

namespace Gradebook

open Time (Instant)

/-- A source of identities, each drawn for a family of records, and of instants. -/
class IdClock (κ : Type) where
  newId : κ → String → String × κ
  now : κ → Instant × κ

/-- A clock that numbers its identities from one and whose instants advance by a fixed span. -/
structure SequentialClock where
  start : Instant
  /-- Nanoseconds from one reading to the next. -/
  span : Int
  drawn : UInt64
  ticks : UInt64
deriving DecidableEq

namespace SequentialClock

def new (start : Instant) (span : Int) : SequentialClock :=
  ⟨start, span, 0, 0⟩

/-- The largest number of spans that a reading advances by. -/
def maxTick : Nat := 2147483647

def reading (c : SequentialClock) (ticks : Nat) : Instant :=
  c.start.shift (c.span * (min ticks maxTick : Nat))

instance : IdClock SequentialClock where
  newId c family := (s!"{family}-{(c.drawn + 1).toNat}", { c with drawn := c.drawn + 1 })
  now c := (c.reading c.ticks.toNat, { c with ticks := c.ticks + 1 })

end SequentialClock

end Gradebook
