import Gradebook.Text.Decimal
import Gradebook.Text.Double

/-!
# YAML scalars

A text is written plain where it then reads back as that text.  It is quoted where it would read
as null, a truth value or a number, or where a character in it has a meaning of its own.  A text
of several lines is written line by line under a bar.  What none of these can hold is written
between double quotes with escapes.
-/

namespace Gradebook.Yaml

open Text (Double digitOf? hexDigits ofDigits? takeSign)

/-- The texts that read as null, a truth value or a number that is not finite. -/
def words : List String :=
  ["", "~", "null", "Null", "NULL", "true", "True", "TRUE", "false", "False", "FALSE",
    ".inf", ".Inf", ".INF", "+.inf", "+.Inf", "+.INF", "-.inf", "-.Inf", "-.INF",
    ".nan", ".NaN", ".NAN"]

def baseOf? : Char → Option Nat
  | 'x' => some 16
  | 'o' => some 8
  | 'b' => some 2
  | _ => none

def integerBound : Nat := 340282366920938463463374607431768211456

/-- Whether a text is an integer in another base than ten. -/
def isBasedInteger (s : List Char) : Bool :=
  let (negative, rest) := takeSign s
  match rest with
  | '0' :: mark :: d :: ds =>
    match (baseOf? mark).bind fun base => ofDigits? base (d :: ds) with
    | some n => if negative then n ≤ integerBound / 2 else n < integerBound
    | none => false
  | _ => false

/-- Whether a text is a decimal number that is finite as a double, or digits after a zero. -/
def isDecimal (s : List Char) : Bool :=
  match Double.read? s, (takeSign s).2 with
  | some (.finite ..), _ => true
  | _, '0' :: ds => ds.all Char.isDigit
  | _, _ => false

/-- Whether a text reads as something else where it is written plain. -/
def isOtherValue (s : List Char) : Bool :=
  String.ofList s ∈ words || isBasedInteger s || isDecimal s

def isBreak (c : Char) : Bool :=
  c = '\n' || c = '\r' || c = '\u0085' || c = '\u2028' || c = '\u2029'

/-- A character that sets indicators off. -/
def isSeparator (c : Char) : Bool :=
  c = ' ' || c = '\t' || c = '\x00' || isBreak c

def isPrintable (c : Char) : Bool :=
  let n := c.toNat
  c = '\n' || (0x20 ≤ n && n ≤ 0x7E) || (0xA0 ≤ n && n ≠ 0xFEFF && n ≠ 0xFFFE && n ≠ 0xFFFF)

/-- Whether what follows sets an indicator off: a separator or the end. -/
def isSetOff (rest : List Char) : Bool :=
  rest.head?.all isSeparator

def hasIndicatorAfter (before : Char) : List Char → Bool
  | [] => false
  | c :: rest =>
    (c = ':' && isSetOff rest) || (c = '#' && isSeparator before) || hasIndicatorAfter c rest

def leadingIndicators : List Char :=
  ['#', ',', '[', ']', '\x7b', '\x7d', '&', '*', '!', '|', '>', '\'', '"', '%', '@', '\x60']

def hasIndicator (s : List Char) : Bool :=
  ['-', '-', '-'].isPrefixOf s || ['.', '.', '.'].isPrefixOf s ||
    match s with
    | [] => false
    | c :: rest =>
      leadingIndicators.contains c || (['?', ':', '-'].contains c && isSetOff rest) ||
        hasIndicatorAfter c rest

def hasPair (p q : Char → Bool) : List Char → Bool
  | a :: b :: rest => (p a && q b) || hasPair p q (b :: rest)
  | _ => false

inductive Style where
  | plain
  | singleQuoted
  | doubleQuoted
  | lines
deriving DecidableEq, Repr

def allowsPlain (s : List Char) : Bool :=
  s.all (fun c => isPrintable c && !isBreak c) && s.head? ≠ some ' ' && s.getLast? ≠ some ' ' &&
    !hasIndicator s

def allowsSingleQuoted (s : List Char) : Bool :=
  s.all isPrintable && !hasPair isBreak (· = ' ') s && !hasPair (· = ' ') isBreak s

/-- Whether a text may be written line by line. -/
def allowsLines (s : List Char) : Bool :=
  s.all isPrintable && s.getLast? ≠ some ' ' && !hasPair (· = ' ') isBreak s

def Style.of (s : List Char) : Style :=
  if s.contains '\n' then if allowsLines s then lines else doubleQuoted
  else if allowsPlain s && !isOtherValue s then plain
  else if allowsSingleQuoted s then singleQuoted
  else doubleQuoted

def indentation (n : Nat) : List Char :=
  List.replicate n ' '

/-- The inside of single quotes; `broken` tells that a line has just ended. -/
def singleQuotedBody (indent : Nat) (broken : Bool) : List Char → List Char
  | [] => if broken then indentation indent else []
  | c :: rest =>
    if isBreak c then c :: singleQuotedBody indent true rest
    else
      (if broken then indentation indent else []) ++ (if c = '\'' then ['\'', '\''] else [c]) ++
        singleQuotedBody indent false rest

def escapeChar (c : Char) : List Char :=
  match c with
  | '\x00' => ['\\', '0']
  | '\x07' => ['\\', 'a']
  | '\x08' => ['\\', 'b']
  | '\t' => ['\\', 't']
  | '\n' => ['\\', 'n']
  | '\x0b' => ['\\', 'v']
  | '\x0c' => ['\\', 'f']
  | '\r' => ['\\', 'r']
  | '\x1b' => ['\\', 'e']
  | '"' => ['\\', '"']
  | '\\' => ['\\', '\\']
  | '\u0085' => ['\\', 'N']
  | '\u2028' => ['\\', 'L']
  | '\u2029' => ['\\', 'P']
  | c =>
    if isPrintable c then [c]
    else if c.toNat ≤ 0xFF then '\\' :: 'x' :: hexDigits 2 c.toNat
    else if c.toNat ≤ 0xFFFF then '\\' :: 'u' :: hexDigits 4 c.toNat
    else '\\' :: 'U' :: hexDigits 8 c.toNat

/-- The marks after the bar: the indentation where the first line does not show it, and whether
the text ends inside a line, with one line break, or with more. -/
def lineMarks (s : List Char) : List Char :=
  (if s.head?.any fun c => c = ' ' || isBreak c then ['2'] else []) ++
    match s.reverse with
    | [] => ['-']
    | [c] => if isBreak c then ['+'] else ['-']
    | c :: d :: _ => if !isBreak c then ['-'] else if isBreak d then ['+'] else []

def linesBody (indent : Nat) (broken : Bool) : List Char → List Char
  | [] => []
  | c :: rest =>
    if isBreak c then c :: linesBody indent true rest
    else (if broken then indentation indent else []) ++ c :: linesBody indent false rest

def writeText (indent : Nat) (s : List Char) : List Char :=
  match Style.of s with
  | .plain => s
  | .singleQuoted => '\'' :: singleQuotedBody indent false s ++ ['\'']
  | .doubleQuoted => '"' :: s.flatMap escapeChar ++ ['"']
  | .lines => '|' :: lineMarks s ++ '\n' :: linesBody indent true s

end Gradebook.Yaml
