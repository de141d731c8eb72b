import Gradebook.Text.Double
import Gradebook.Time.Calendar

/-!
# TOML values

The values of a TOML document, and how those without delimiters are read: booleans, integers in four
bases, floating point numbers, and moments.  Digits may be grouped by single underscores.  A moment
(a date, a time, or both) is kept as its normal text.
-/

namespace Gradebook.Toml

inductive Value where
  | string (s : String)
  | integer (n : Int)
  | float (x : Text.Double)
  | bool (b : Bool)
  | moment (text : String)
  | array (items : List Value)
  | table (entries : List (String × Value))

instance : Inhabited Value := ⟨.bool false⟩

open Text (Double digitOf? digitsValue ofDigits? padded takeSign)

/-- Digits of a base, grouped by single underscores between them, without the underscores. -/
def ungroup? (isDigit : Char → Bool) : List Char → Option (List Char)
  | [] => none
  | [c] => if isDigit c then some [c] else none
  | c :: '_' :: rest => if isDigit c then (c :: ·) <$> ungroup? isDigit rest else none
  | c :: rest => if isDigit c then (c :: ·) <$> ungroup? isDigit rest else none

def readBase? (base : Nat) (s : List Char) : Option Nat := do
  let ds ← ungroup? (fun c => (digitOf? base c).isSome) s
  ofDigits? base ds

def readWhole? (s : List Char) : Option (List Char) := do
  let ds ← ungroup? Char.isDigit s
  match ds with
  | '0' :: _ :: _ => none
  | _ => some ds

def inWord? (n : Int) : Option Value :=
  if -9223372036854775808 ≤ n ∧ n ≤ 9223372036854775807 then some (.integer n) else none

def readInteger? (s : List Char) : Option Value :=
  match s with
  | '0' :: 'x' :: rest => (readBase? 16 rest).bind fun n => inWord? n
  | '0' :: 'o' :: rest => (readBase? 8 rest).bind fun n => inWord? n
  | '0' :: 'b' :: rest => (readBase? 2 rest).bind fun n => inWord? n
  | _ => do
    let (negative, rest) := takeSign s
    let n := digitsValue (← readWhole? rest)
    inWord? (if negative then -(n : Int) else n)

def readExponent? (s : List Char) : Option Int := do
  let (negative, rest) := takeSign s
  let n := digitsValue (← ungroup? Char.isDigit rest)
  some (if negative then -(n : Int) else n)

def readFloat? (s : List Char) : Option Value := do
  let (negative, rest) := takeSign s
  if rest = ['i', 'n', 'f'] then some (.float (.infinite negative))
  else if rest = ['n', 'a', 'n'] then some (.float .notANumber)
  else do
    let isMark (c : Char) : Bool := c == 'e' || c == 'E'
    let number := rest.takeWhile (!isMark ·)
    let exponent ← match rest.dropWhile (!isMark ·) with
      | [] => some none
      | _ :: after => (readExponent? after).map some
    let whole ← readWhole? (number.takeWhile (· ≠ '.'))
    let fraction ← match number.dropWhile (· ≠ '.') with
      | [] => some none
      | _ :: after => (ungroup? Char.isDigit after).map some
    if exponent.isNone && fraction.isNone then none
    else
      let places := fraction.getD []
      let x := Double.ofDecimal negative (digitsValue (whole ++ places))
        (exponent.getD 0 - places.length)
      if x = .infinite false then none else some (.float x)

def fixedDigits? (n : Nat) (s : List Char) : Option (Nat × List Char) :=
  let ds := s.take n
  if ds.length = n ∧ ds.all Char.isDigit then some (digitsValue ds, s.drop n) else none

def skipChar? (c : Char) : List Char → Option (List Char)
  | d :: rest => if c = d then some rest else none
  | [] => none

def readDate? (s : List Char) : Option (List Char × List Char) := do
  let (year, t) ← fixedDigits? 4 s
  let (month, t) ← fixedDigits? 2 (← skipChar? '-' t)
  let (day, t) ← fixedDigits? 2 (← skipChar? '-' t)
  if (Time.Date.mk year month day).isValid then some (s.take 10, t) else none

/-- The digits of a fraction in normal form: at most nine, none of them a final zero. -/
def normalFraction (ds : List Char) : List Char :=
  ((ds.take 9).reverse.dropWhile (· = '0')).reverse

/-- A time of day in normal form, and what follows; `maxHour` is the greatest hour. -/
def readTime? (maxHour : Nat) (s : List Char) : Option (List Char × List Char) := do
  let (hour, t) ← fixedDigits? 2 s
  let (minute, t) ← fixedDigits? 2 (← skipChar? ':' t)
  let (second, t) ← fixedDigits? 2 (← skipChar? ':' t)
  if maxHour < hour ∨ 60 ≤ minute ∨ 61 ≤ second then none
  else
    match t with
    | '.' :: rest =>
      let ds := rest.takeWhile Char.isDigit
      if ds = [] then none
      else
        let f := normalFraction ds
        some (s.take 8 ++ (if f = [] then [] else '.' :: f), rest.dropWhile Char.isDigit)
    | _ => some (s.take 8, t)

/-- The normal form of an offset from universal time, in minutes; no offset is negative zero. -/
def writeZoneOffset (negative : Bool) (minutes : Nat) : List Char :=
  (if negative && minutes ≠ 0 then '-' else '+') ::
    padded 2 (minutes / 60) ++ ':' :: padded 2 (minutes % 60)

/-- An offset from universal time in normal form, empty where there is none; `isOffset` tells which
hours and minutes make one. -/
def readZoneOffset? (isOffset : Nat → Nat → Bool) (s : List Char) : Option (List Char) :=
  match s with
  | [] => some []
  | ['Z'] | ['z'] => some ['Z']
  | sign :: rest => do
    let (hours, t) ← fixedDigits? 2 rest
    let (minutes, t) ← fixedDigits? 2 (← skipChar? ':' t)
    if (sign = '+' ∨ sign = '-') ∧ isOffset hours minutes ∧ t = [] then
      some (writeZoneOffset (sign = '-') (60 * hours + minutes))
    else none

def isTimeMark (c : Char) : Bool :=
  c == 'T' || c == 't' || c == ' '

/-- A moment in normal form: a date, a time, or a date with a time. -/
def readMoment? (s : List Char) : Option (List Char) :=
  match readDate? s with
  | some (date, []) => some date
  | some (date, mark :: rest) => do
    let (time, zone) ← readTime? 23 rest
    let offset ← readZoneOffset? (fun hours minutes => hours < 24 && minutes < 60) zone
    if isTimeMark mark then some (date ++ 'T' :: time ++ offset) else none
  | none =>
    match readTime? 23 s with
    | some (time, []) => some time
    | _ => none

/-- A moment in normal form from a text of its own, where the day may end with hour 24, an offset
may have up to 24 hours in any minutes, and a date may have an offset without a time. -/
def readMomentText? (s : List Char) : Option (List Char) :=
  let readOffset? := readZoneOffset? fun hours minutes => 60 * hours + minutes ≤ 1440
  if s[2]? = some ':' then
    match readTime? 24 s with
    | some (time, []) => some time
    | _ => none
  else do
    let (date, t) ← readDate? s
    if t.head?.any isTimeMark then
      let (time, zone) ← readTime? 24 (t.drop 1)
      some (date ++ 'T' :: time ++ (← readOffset? zone))
    else some (date ++ (← readOffset? t))

def readScalar? (s : List Char) : Option Value :=
  if s = ['t', 'r', 'u', 'e'] then some (.bool true)
  else if s = ['f', 'a', 'l', 's', 'e'] then some (.bool false)
  else
    match readInteger? s with
    | some v => some v
    | none =>
      match readFloat? s with
      | some v => some v
      | none => (readMoment? s).map fun t => .moment (String.ofList t)

def isScalarChar (c : Char) : Bool :=
  c.isAlphanum || c == '_' || c == '+' || c == '-' || c == '.' || c == ':'

/-- A value without delimiters at the front, and what follows.  A date may be followed by a space
and a time. -/
def takeScalar? (s : List Char) : Option (Value × List Char) :=
  let word := s.takeWhile isScalarChar
  let rest := s.dropWhile isScalarChar
  let plain := (readScalar? word).map (·, rest)
  match readDate? word, rest with
  | some (_, []), ' ' :: more =>
    match readMoment? (word ++ ' ' :: more.takeWhile isScalarChar) with
    | some t => some (.moment (String.ofList t), more.dropWhile isScalarChar)
    | none => plain
  | _, _ => plain

end Gradebook.Toml
