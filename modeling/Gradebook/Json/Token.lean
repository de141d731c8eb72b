import Gradebook.Json.Quoted
import Gradebook.Text.Decimal

/-!
# JSON tokens

The tokens of a JSON text, the characters each is written with, and the reading of a text into
tokens.  White space separates tokens and means nothing else.
-/

namespace Gradebook.Json

/-- A token; a string is absent if it holds an unpaired surrogate. -/
inductive Token where
  | openArray
  | closeArray
  | openObject
  | closeObject
  | comma
  | colon
  | null
  | bool (b : Bool)
  | integer (n : Int)
  | decimal (literal : List Char)
  | string (s : Option String)
deriving DecidableEq

def writeInteger (n : Int) : List Char :=
  if n < 0 then '-' :: Text.digits n.natAbs else Text.digits n.natAbs

def Token.write : Token → List Char
  | openArray => ['[']
  | closeArray => [']']
  | openObject => ['\x7b']
  | closeObject => ['\x7d']
  | comma => [',']
  | colon => [':']
  | null => ['n', 'u', 'l', 'l']
  | bool true => ['t', 'r', 'u', 'e']
  | bool false => ['f', 'a', 'l', 's', 'e']
  | integer n => writeInteger n
  | decimal literal => literal
  | string s => quote ((s.getD "").toList)

def isSpace (c : Char) : Bool :=
  c == ' ' || c == '\n' || c == '\t' || c == '\r'

def isNumberChar (c : Char) : Bool :=
  c.isDigit || c == '-' || c == '+' || c == '.' || c == 'e' || c == 'E'

def isExponent : List Char → Bool
  | [] => true
  | e :: rest =>
    let ds := match rest with
      | '+' :: ds | '-' :: ds => ds
      | _ => rest
    (e == 'e' || e == 'E') && !ds.isEmpty && ds.all Char.isDigit

def isFractionAndExponent : List Char → Bool
  | '.' :: rest =>
    !(rest.takeWhile Char.isDigit).isEmpty && isExponent (rest.dropWhile Char.isDigit)
  | rest => isExponent rest

/-- The integer part of a number has a digit, and no zero in front of others. -/
def isIntegerPart : List Char → Bool
  | [] => false
  | '0' :: rest => rest.isEmpty
  | _ => true

def numberToken? (literal : List Char) : Option Token :=
  let (negative, unsigned) := match literal with
    | '-' :: rest => (true, rest)
    | _ => (false, literal)
  let (whole, rest) := Text.digitRun unsigned
  if isIntegerPart whole && isFractionAndExponent rest then
    if rest.isEmpty && !(negative && whole == ['0']) then
      let n := Text.digitsValue whole
      some (.integer (if negative then -(n : Int) else n))
    else some (.decimal literal)
  else none

/-- The token that begins with a character, and what follows it. -/
def token? (c : Char) (rest : List Char) : Option (Token × List Char) :=
  match c with
  | '[' => some (.openArray, rest)
  | ']' => some (.closeArray, rest)
  | '\x7b' => some (.openObject, rest)
  | '\x7d' => some (.closeObject, rest)
  | ',' => some (.comma, rest)
  | ':' => some (.colon, rest)
  | '"' => (pieces? rest).map fun (ps, r) => (.string ((joinPieces? ps).map String.ofList), r)
  | 'n' =>
    match rest with
    | 'u' :: 'l' :: 'l' :: r => some (.null, r)
    | _ => none
  | 't' =>
    match rest with
    | 'r' :: 'u' :: 'e' :: r => some (.bool true, r)
    | _ => none
  | 'f' =>
    match rest with
    | 'a' :: 'l' :: 's' :: 'e' :: r => some (.bool false, r)
    | _ => none
  | c => (numberToken? (c :: rest.takeWhile isNumberChar)).map
      fun t => (t, rest.dropWhile isNumberChar)

theorem length_dropWhile_le (p : Char → Bool) (s : List Char) :
    (s.dropWhile p).length ≤ s.length :=
  (List.dropWhile_suffix p).length_le

theorem token?_length {c : Char} {rest r : List Char} {t : Token}
    (h : token? c rest = some (t, r)) : r.length < (c :: rest).length := by
  unfold token? at h
  split at h
  all_goals try (simp only [Option.some.injEq, Prod.mk.injEq] at h; obtain ⟨-, rfl⟩ := h; simp)
  · simp only [Option.map_eq_some_iff, Prod.mk.injEq, Prod.exists] at h
    obtain ⟨ps, u, hu, -, rfl⟩ := h
    have := pieces?_length hu
    simp only [List.length_cons]
    omega
  · split at h <;> simp_all
    omega
  · split at h <;> simp_all
    omega
  · split at h <;> simp_all
    omega
  · simp only [Option.map_eq_some_iff, Prod.mk.injEq] at h
    obtain ⟨u, -, -, rfl⟩ := h
    have := length_dropWhile_le isNumberChar rest
    simp only [List.length_cons]
    omega

def tokens? : List Char → Option (List Token)
  | [] => some []
  | c :: rest =>
    if isSpace c then tokens? rest
    else
      match _h : token? c rest with
      | none => none
      | some (t, r) => (t :: ·) <$> tokens? r
termination_by s => s.length
decreasing_by
  · simp
  · exact token?_length _h

end Gradebook.Json
