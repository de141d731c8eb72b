import Gradebook.Text.Decimal
import Gradebook.Toml.Quoted
import Gradebook.Toml.Reader

/-!
# Layout of TOML texts

A table of texts under a header, one a line.  Of the styles of a string the first that needs no
escape is taken: basic, literal, and the same two on several lines; where each needs one, the
string is basic.
-/

namespace Gradebook.Toml

inductive Style where
  | basic
  | literal
  | basicLines
  | literalLines
deriving DecidableEq, Repr

def hasTriple (q : Char) : List Char → Bool
  | a :: b :: c :: rest => (a = q && b = q && c = q) || hasTriple q (b :: c :: rest)
  | _ => false

def Style.of (s : List Char) : Style :=
  let plain := s.all fun c => c = '\n' || !isControl c
  let oneLine := !s.contains '\n'
  if plain && oneLine && !s.contains '\\' && !s.contains '"' then basic
  else if plain && oneLine && !s.contains '\'' then literal
  else if plain && !s.contains '\\' && !hasTriple '"' s then basicLines
  else if plain && !hasTriple '\'' s then literalLines
  else if oneLine then basic
  else basicLines

/-- One character other than a quote in a basic string; a line break stays where the string is
written on several `lines`. -/
def escapeChar (lines : Bool) : Char → List Char
  | '\x08' => ['\\', 'b']
  | '\t' => ['\\', 't']
  | '\n' => if lines then ['\n'] else ['\\', 'n']
  | '\x0c' => ['\\', 'f']
  | '\r' => ['\\', 'r']
  | '\\' => ['\\', '\\']
  | c => if isControl c then '\\' :: 'u' :: Text.hexDigits 4 c.toNat else [c]

/-- A basic string inside its quotes, after a number of quotes without escape.  On several lines
only a third quote in a row is escaped. -/
def escape (lines : Bool) (quotes : Nat) : List Char → List Char
  | [] => []
  | c :: rest =>
    if c = '"' then
      if lines && quotes < 2 then '"' :: escape lines (quotes + 1) rest
      else '\\' :: '"' :: escape lines 0 rest
    else escapeChar lines c ++ escape lines 0 rest

/-- The line break after the opening of a string that has several lines. -/
def opening (s : List Char) : List Char :=
  if s.contains '\n' then ['\n'] else []

def writeString (s : List Char) : List Char :=
  match Style.of s with
  | .basic => '"' :: escape false 0 s ++ ['"']
  | .literal => '\'' :: s ++ ['\'']
  | .basicLines => ['"', '"', '"'] ++ opening s ++ escape true 0 s ++ ['"', '"', '"']
  | .literalLines => ['\'', '\'', '\''] ++ opening s ++ s ++ ['\'', '\'', '\'']

def writeKey (k : List Char) : List Char :=
  if k ≠ [] && k.all isBareChar then k
  else if k.any isControl || (k.contains '\'' && (k.contains '\\' || k.contains '"')) then
    '"' :: escape false 0 k ++ ['"']
  else if k.contains '\\' || k.contains '"' then '\'' :: k ++ ['\'']
  else '"' :: escape false 0 k ++ ['"']

def writeEntry (e : String × String) : List Char :=
  writeKey e.1.toList ++ [' ', '=', ' '] ++ writeString e.2.toList ++ ['\n']

def writeTable (header : String) (entries : List (String × String)) : String :=
  String.ofList
    ('[' :: writeKey header.toList ++ [']', '\n'] ++ entries.flatMap writeEntry)

end Gradebook.Toml
