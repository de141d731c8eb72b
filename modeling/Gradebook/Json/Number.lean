import Gradebook.Json.Token
import Gradebook.Text.Double

/-!
# JSON numbers as doubles

A number is gathered digit by digit in a word of 64 bits; the digits that the word cannot hold are
dropped.  The word is then scaled by a power of ten, with the rounding of each operation on doubles,
so that a number with many digits or a great exponent may end beside the nearest double.
-/

namespace Gradebook.Json

open Text (Double)

def wordBound : Nat := 18446744073709551616

/-- Puts digits behind a word as long as it can hold them; the word, and the digits left over. -/
def gather (word : Nat) : List Char → Nat × List Char
  | [] => (word, [])
  | c :: rest =>
    let next := 10 * word + (c.toNat - '0'.toNat)
    if next < wordBound then gather next rest else (word, c :: rest)

def maxPower : Nat := 308

def powerOfTen (n : Nat) : Double :=
  .ofNat (Text.tenTo n)

/-- A double divided by a power of ten; steps of the greatest power come first, up to a number of
them that leaves nothing of any word. -/
def divided : Nat → Double → Nat → Double
  | 0, x, _ => x
  | k + 1, x, n =>
    if n ≤ maxPower then x.dividedBy (powerOfTen n)
    else divided k (x.dividedBy (powerOfTen maxPower)) (n - maxPower)

/-- A word times a power of ten as a double; one too great to be finite is refused. -/
def scale? (word : Nat) (exponent : Int) : Option Double :=
  let x := Double.ofNat word
  if word = 0 then some x
  else if exponent < 0 then some (divided 4 x (-exponent).toNat)
  else if exponent ≤ maxPower then
    match x.times (powerOfTen exponent.toNat) with
    | .infinite _ => none
    | y => some y
  else none

def writtenExponent : List Char → Int
  | _ :: '-' :: ds => -(Text.digitsValue ds : Int)
  | _ :: '+' :: ds => Text.digitsValue ds
  | _ :: ds => Text.digitsValue ds
  | [] => 0

def double? (literal : List Char) : Option Double :=
  let (negative, unsigned) := match literal with
    | '-' :: rest => (true, rest)
    | _ => (false, literal)
  let (whole, rest) := Text.digitRun unsigned
  let (places, exponent) := match rest with
    | '.' :: more => Text.digitRun more
    | _ => ([], rest)
  let (word, overflow) := gather 0 whole
  let (word, dropped) := gather word places
  let shift : Int := (overflow.length : Int) - (places.length - dropped.length : Nat)
  (scale? word (shift + writtenExponent exponent)).map fun x => if negative then x.negated else x

end Gradebook.Json
