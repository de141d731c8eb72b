import Gradebook.Text.Decimal

/-!
# Binary floating point numbers

Numbers of 64-bit binary floating point, as sign, mantissa and power of two.  A decimal number is
read as the nearest of them, a tie as the one with the even mantissa.  A number is written with
the fewest digits that read back as it, without an exponent.
-/

namespace Gradebook.Text

inductive Double where
  /-- The mantissa times a power of two. -/
  | finite (negative : Bool) (mantissa : Nat) (exponent : Int)
  | infinite (negative : Bool)
  | notANumber
deriving DecidableEq

namespace Double

def minExponent : Int := -1074

def maxExponent : Int := 971

def twoTo (k : Nat) : Nat :=
  Nat.pow 2 k

/-- The quotient of two numbers rounded to the nearest integer, a tie to the even one. -/
def roundQuotient (a b : Nat) : Nat :=
  let q := a / b
  let twice := 2 * (a % b)
  if twice < b then q else if b < twice then q + 1 else q + q % 2

/-- The exponent of the greatest power of two that is not above a quotient. -/
def quotientLog2 (a b : Nat) : Int :=
  let k : Int := (a.log2 : Int) - b.log2
  if a * twoTo (-k).toNat < b * twoTo k.toNat then k - 1 else k

def ofQuotient (negative : Bool) (a b : Nat) : Double :=
  let e := max (quotientLog2 a b - 52) minExponent
  let m := roundQuotient (a * twoTo (-e).toNat) (b * twoTo e.toNat)
  let (m, e) := if m = twoTo 53 then (twoTo 52, e + 1) else (m, e)
  if maxExponent < e then infinite negative else finite negative m e

def ofNat (n : Nat) : Double :=
  if n = 0 then finite false 0 minExponent else ofQuotient false n 1

/-- The double nearest to a quotient of two numbers, the second of which is not zero, times a power
of two. -/
def scaled (negative : Bool) (n d : Nat) (exponent : Int) : Double :=
  if n = 0 then finite negative 0 minExponent
  else ofQuotient negative (n * twoTo exponent.toNat) (d * twoTo (-exponent).toNat)

def times : Double → Double → Double
  | finite s m e, finite t n f => scaled (s != t) (m * n) 1 (e + f)
  | _, _ => notANumber

def dividedBy : Double → Double → Double
  | finite s m e, finite t n f => scaled (s != t) m n (e - f)
  | _, _ => notANumber

def negated : Double → Double
  | finite s m e => finite (!s) m e
  | infinite s => infinite (!s)
  | notANumber => notANumber

def ofDecimal (negative : Bool) (n : Nat) (exponent : Int) : Double :=
  let magnitude := (digits n).length + exponent
  if n = 0 ∨ magnitude < -330 then finite negative 0 minExponent
  else if 310 < magnitude then infinite negative
  else ofQuotient negative (n * tenTo exponent.toNat) (tenTo (-exponent).toNat)

/-- The double of a decimal number: a sign that may be absent, digits with a point that may stand
anywhere among them, and an exponent that may be absent. -/
def read? (s : List Char) : Option Double :=
  let (negative, unsigned) := takeSign s
  let isMark (c : Char) : Bool := c == 'e' || c == 'E'
  let number := unsigned.takeWhile (!isMark ·)
  let whole := number.takeWhile (· ≠ '.')
  let places := (number.dropWhile (· ≠ '.')).drop 1
  let (negativeExponent, exponent) := match unsigned.dropWhile (!isMark ·) with
    | [] => (false, ['0'])
    | _ :: written => takeSign written
  let ds := whole ++ places
  if ds ≠ [] && ds.all Char.isDigit && exponent ≠ [] && exponent.all Char.isDigit then
    let e : Int := digitsValue exponent
    some (ofDecimal negative (digitsValue ds)
      ((if negativeExponent then -e else e) - places.length))
  else none

/-- The point of a decimal grid that reads back as a double and is nearest to it, the greater of two
that are as near, if the grid has such a point.  The grid has step ten to the given power. -/
def gridPoint? (m : Nat) (e power : Int) : Option Nat :=
  let scale := twoTo (e - 2).toNat * tenTo (-power).toNat
  let step := tenTo power.toNat * twoTo (2 - e).toNat
  let value := 4 * m * scale
  let upper := (4 * m + 2) * scale
  let lower := (if m = twoTo 52 ∧ minExponent < e then 4 * m - 1 else 4 * m - 2) * scale
  let reads (c : Nat) : Bool :=
    if m % 2 = 0 then lower ≤ c * step && c * step ≤ upper
    else lower < c * step && c * step < upper
  let below := value / step
  match reads below, reads (below + 1) with
  | true, true =>
    some (if value - below * step < (below + 1) * step - value then below else below + 1)
  | true, false => some below
  | false, true => some (below + 1)
  | false, false => none

/-- Digits and power of ten on the widest grid that has a point for the double, from a power of
ten, counted from -330, downwards. -/
def shortestFrom (m : Nat) (e : Int) : Nat → Nat × Int
  | 0 => (0, 0)
  | k + 1 =>
    let power : Int := (k : Int) - 330
    match gridPoint? m e power with
    | some d => (d, power)
    | none => shortestFrom m e k

/-- The fewest digits that read back as the double, and their power of ten. -/
def shortest (m : Nat) (e : Int) : Nat × Int :=
  shortestFrom m e 640

def positional (ds : List Char) (power : Int) : List Char :=
  if 0 ≤ power then ds ++ List.replicate power.toNat '0'
  else
    let places := (-power).toNat
    let ds := List.replicate (places + 1 - ds.length) '0' ++ ds
    ds.take (ds.length - places) ++ '.' :: ds.drop (ds.length - places)

def write : Double → List Char
  | finite negative m e =>
    let sign := if negative then ['-'] else []
    if m = 0 then sign ++ ['0']
    else
      let (d, power) := shortest m e
      sign ++ positional (digits d) power
  | infinite negative => if negative then ['-', 'i', 'n', 'f'] else ['i', 'n', 'f']
  | notANumber => ['N', 'a', 'N']

/-- The nearest number below a bound that is not negative, a half rounded up; the ends of the
range stand for what lies outside it. -/
def toNatBelow (bound : Nat) : Double → Nat
  | finite negative m e =>
    if negative then 0
    else
      let n := if 0 ≤ e then m * twoTo e.toNat
        else (m + twoTo ((-e).toNat - 1)) / twoTo (-e).toNat
      min n (bound - 1)
  | infinite negative => if negative then 0 else bound - 1
  | notANumber => 0

def isNonzero : Double → Bool
  | finite _ m _ => m ≠ 0
  | _ => true

end Double

end Gradebook.Text
