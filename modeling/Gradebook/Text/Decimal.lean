/-!
# Digits

Numbers are written with the ten ASCII digits and without superfluous zeros, or padded with zeros
to a width.  Reading takes the digits that stand in front.  Digits of other bases, of up to sixteen,
are read in either case; hexadecimal digits of a fixed number are written in upper case.
-/

namespace Gradebook.Text

def tenTo (k : Nat) : Nat :=
  Nat.pow 10 k

def digits (n : Nat) : List Char :=
  Nat.toDigits 10 n

def digitsValue (s : List Char) : Nat :=
  Nat.ofDigitChars 10 s 0

theorem digitsValue_digits (n : Nat) : digitsValue (digits n) = n :=
  Nat.ofDigitChars_toDigits (by decide) (by decide)

def padded (width n : Nat) : List Char :=
  List.replicate (width - (digits n).length) '0' ++ digits n

def digitRun (s : List Char) : List Char × List Char :=
  (s.takeWhile Char.isDigit, s.dropWhile Char.isDigit)

/-- The number written by one up to `width` digits at the front, and what follows them. -/
def number? (width : Nat) (s : List Char) : Option (Nat × List Char) :=
  match (s.take width).takeWhile Char.isDigit with
  | [] => none
  | ds => some (digitsValue ds, s.drop ds.length)

def takeSign : List Char → Bool × List Char
  | '-' :: rest => (true, rest)
  | '+' :: rest => (false, rest)
  | s => (false, s)

/-- The number that a text of digits alone denotes, a leading plus sign allowed, below a bound. -/
def natBelow? (bound : Nat) (s : List Char) : Option Nat :=
  let ds := match s with
    | '+' :: rest => rest
    | _ => s
  if ds ≠ [] ∧ ds.all Char.isDigit ∧ digitsValue ds < bound then some (digitsValue ds) else none

def digitOf? (base : Nat) (c : Char) : Option Nat :=
  let n := if c.isDigit then c.toNat - 48
    else if 'a' ≤ c ∧ c ≤ 'f' then c.toNat - 87
    else if 'A' ≤ c ∧ c ≤ 'F' then c.toNat - 55
    else 16
  if n < base then some n else none

def ofDigits? (base : Nat) (ds : List Char) : Option Nat :=
  ds.foldlM (fun n d => (digitOf? base d).map (base * n + ·)) 0

def upperHexDigit (n : Nat) : Char :=
  if n < 10 then Char.ofNat (48 + n) else Char.ofNat (55 + n)

/-- The lowest hexadecimal digits of a number, the highest of them first. -/
def hexDigits : Nat → Nat → List Char
  | 0, _ => []
  | width + 1, n => hexDigits width (n / 16) ++ [upperHexDigit (n % 16)]

end Gradebook.Text
