import Gradebook.Clock
import Gradebook.Text.Decimal

/-!
# Clocks of a run

A run of the program draws its identities from a random number, which both come from outside: each
identity is a universally unique identifier of version four, and they count up from that number.
Every instant of the run is the one at which it began.
-/

namespace Gradebook

open Time (Instant)

structure WallClock where
  present : Instant
  seed : Nat
  drawn : Nat
deriving DecidableEq

namespace WallClock

def lowerHex (width n : Nat) : List Char :=
  (Text.hexDigits width n).map Char.toLower

/-- The identifier that holds the lowest 122 bits of a number. -/
def identifier (n : Nat) : String :=
  String.ofList (lowerHex 8 (n >>> 90) ++ '-' :: lowerHex 4 (n >>> 74) ++
    '-' :: '4' :: lowerHex 3 (n >>> 62) ++ '-' :: lowerHex 4 (0x8000 + (n >>> 48) % 0x4000) ++
    '-' :: lowerHex 12 n)

instance : IdClock WallClock where
  newId c family := (s!"{family}-{identifier (c.seed + c.drawn)}", { c with drawn := c.drawn + 1 })
  now c := (c.present, c)

end WallClock

end Gradebook
