import Gradebook.Text.Blank
import Gradebook.Text.Decimal
import Gradebook.Text.Double
import Gradebook.Text.Letter

/-!
# Patterns of log filters

A log filter may ask that a field of a span match a pattern, which is a regular expression without
a closing brace.  A pattern is read from left to right, with the groups that are open and the mode
that holds.  Classes that are named after properties of characters are not known, nor is the case of
characters past ASCII; what would need them is no pattern.
-/

namespace Gradebook.Settings

namespace Pattern

open Text (digitOf? isAlphabetic isAlphanumeric isBlank)

/-- How the characters of a pattern are read and matched. -/
structure Mode where
  /-- White space and comments mean nothing. -/
  verbose : Bool
  /-- Characters are matched, not bytes. -/
  unicode : Bool
  ignoreCase : Bool
deriving DecidableEq, Repr

def Mode.initial : Mode := ⟨false, true, false⟩

def skipVerbose : Nat → List Char → List Char
  | 0, s => s
  | n + 1, s =>
    match s with
    | '#' :: rest => skipVerbose n ((rest.dropWhile (· ≠ '\n')).drop 1)
    | c :: rest => if isBlank c then skipVerbose n rest else s
    | [] => []

def Mode.skip (m : Mode) (s : List Char) : List Char :=
  if m.verbose then skipVerbose s.length s else s

def Mode.second? (m : Mode) (s : List Char) : Option Char :=
  let rest := s.drop 1
  if m.verbose then
    match rest.dropWhile isBlank with
    | '#' :: more => (more.dropWhile isBlank).head?
    | more => more.head?
  else rest.head?

/-- The mode with a flag set or cleared; not all flags matter here. -/
def Mode.with (m : Mode) (flag : Char) (value : Bool) : Mode :=
  match flag with
  | 'x' => { m with verbose := value }
  | 'u' => { m with unicode := value }
  | 'i' => { m with ignoreCase := value }
  | _ => m

def flagChars : List Char := ['i', 'm', 's', 'U', 'u', 'R', 'x']

/-- The mode after flags, those after a dash cleared; each stands at most once, and one after the
dash. -/
def Mode.ofFlags? (m : Mode) (flags : List Char) : Option Mode :=
  let set := flags.takeWhile (· ≠ '-')
  let cleared := (flags.dropWhile (· ≠ '-')).drop 1
  if (set ++ cleared).all flagChars.contains && (set ++ cleared).Nodup &&
      !(flags.getLast? = some '-') then
    some (cleared.foldl (·.with · false) (set.foldl (·.with · true) m))
  else none

inductive Atom where
  /-- A character; `isByte` tells that it is given as a byte. -/
  | char (c : Char) (isByte : Bool)
  | named (negated : Bool)
  | place
  /-- The edge of a word or what is no edge. -/
  | wordEdge
deriving DecidableEq, Repr

def readCode? (m : Mode) : Nat → Nat → List Char → Option (Char × List Char)
  | 0, code, s =>
    if code < 0xD800 || (0xDFFF < code && code < 0x110000) then some (Char.ofNat code, s) else none
  | n + 1, code, s =>
    match s with
    | c :: rest => (digitOf? 16 c).bind fun d => readCode? m n (16 * code + d) (m.skip rest)
    | [] => none

/-- ASCII characters that stand for themselves after a backslash: all but letters, digits and the
angle brackets. -/
def isEscapable (c : Char) : Bool :=
  c.toNat < 0x80 && !c.isAlphanum && c ≠ '<' && c ≠ '>'

def readEscape? (m : Mode) (s : List Char) : Option (Atom × List Char) :=
  match s with
  | [] => none
  | c :: rest =>
    match c with
    | 'x' => (readCode? m 2 0 (m.skip rest)).map fun (c, r) => (.char c true, r)
    | 'u' => (readCode? m 4 0 (m.skip rest)).map fun (c, r) => (.char c false, r)
    | 'U' => (readCode? m 8 0 (m.skip rest)).map fun (c, r) => (.char c false, r)
    | 'd' | 's' | 'w' => some (.named false, rest)
    | 'D' | 'S' | 'W' => some (.named true, rest)
    | 'a' => some (.char '\x07' false, rest)
    | 'f' => some (.char '\x0c' false, rest)
    | 't' => some (.char '\t' false, rest)
    | 'n' => some (.char '\n' false, rest)
    | 'r' => some (.char '\r' false, rest)
    | 'v' => some (.char '\x0b' false, rest)
    | 'A' | 'z' => some (.place, rest)
    | 'b' | 'B' | '<' | '>' => some (.wordEdge, rest)
    | c => if isEscapable c then some (.char c false, rest) else none

def Mode.admits (m : Mode) : Atom → Bool
  | .char c isByte =>
    if m.unicode then !m.ignoreCase else !isByte || c.toNat < 0x80
  | .named negated => !m.unicode && !negated
  | .place => true
  | .wordEdge => !m.unicode

def classNames : List String :=
  ["alnum", "alpha", "ascii", "blank", "cntrl", "digit", "graph", "lower", "print", "punct",
    "space", "upper", "word", "xdigit"]

/-- What follows a class by name, from the character after its bracket on, and whether it is
negated. -/
def readClassName? (s : List Char) : Option (Bool × List Char) :=
  match s with
  | ':' :: rest =>
    let (negated, rest) := match rest with
      | '^' :: more => (true, more)
      | _ => (false, rest)
    match rest.dropWhile (· ≠ ':') with
    | ':' :: ']' :: after =>
      if classNames.contains (String.ofList (rest.takeWhile (· ≠ ':'))) then some (negated, after)
      else none
    | _ => none
  | _ => none

def skipDashes (m : Mode) : Nat → List Char → List Char
  | 0, s => s
  | n + 1, s =>
    match s with
    | '-' :: rest => skipDashes m n (m.skip rest)
    | _ => s

/-- What follows the opening of a class: a caret, then dashes or else a bracket that closes
nothing. -/
def openClass? (m : Mode) (s : List Char) : Option (List Char) :=
  let s := m.skip s
  let negated := s.head? = some '^'
  let s := if negated then m.skip (s.drop 1) else s
  let t := match s with
    | ']' :: rest => m.skip rest
    | _ => skipDashes m s.length s
  if t = [] || (negated && !m.unicode) then none else some t

def readItem? (m : Mode) (s : List Char) : Option (Atom × List Char) :=
  match s with
  | '\\' :: rest => readEscape? m rest
  | c :: rest => some (.char c false, rest)
  | [] => none

def Mode.admitsItem (m : Mode) : Atom → Bool
  | .char c _ => m.unicode || c.toNat < 0x80
  | .named negated => !m.unicode && !negated
  | _ => false

def readRange? (m : Mode) (s : List Char) : Option (List Char) := do
  let (first, rest) ← readItem? m s
  let rest := m.skip rest
  if rest = [] || !m.admitsItem first then none
  else if rest.head? ≠ some '-' || m.second? rest = some ']' || m.second? rest = some '-' then
    some rest
  else
    let (last, rest) ← readItem? m (m.skip (rest.drop 1))
    match first, last with
    | .char a _, .char b _ => if m.admitsItem last && a.toNat ≤ b.toNat then some rest else none
    | _, _ => none

/-- What follows a class, from inside the innermost of some classes on; the first number bounds the
steps, the second counts the classes around. -/
def readClass? (m : Mode) : Nat → Nat → List Char → Option (List Char)
  | 0, _, _ => none
  | n + 1, depth, s =>
    match m.skip s with
    | [] => none
    | '[' :: rest =>
      match readClassName? rest with
      | some (negated, after) =>
        if negated && !m.unicode then none else readClass? m n depth after
      | none => (openClass? m rest).bind (readClass? m n (depth + 1))
    | ']' :: rest => if depth = 0 then some rest else readClass? m n (depth - 1) rest
    | '&' :: '&' :: rest => readClass? m n depth rest
    | '-' :: '-' :: rest => readClass? m n depth rest
    | '~' :: '~' :: rest => readClass? m n depth rest
    | t => (readRange? m t).bind (readClass? m n depth)

structure Progress where
  mode : Mode
  /-- The modes to return to where the open groups close, the innermost first. -/
  groups : List Mode
  names : List (List Char)
  /-- Something that can be repeated stands in front. -/
  repeatable : Bool

def Progress.initial : Progress := ⟨.initial, [], [], false⟩

def Progress.enter (p : Progress) (m : Mode) : Progress :=
  { p with mode := m, groups := p.mode :: p.groups, repeatable := false }

def isGroupName (name : List Char) : Bool :=
  match name with
  | [] => false
  | c :: rest =>
    (c == '_' || isAlphabetic c) &&
      rest.all fun d => d == '_' || d == '.' || d == '[' || d == ']' || isAlphanumeric d

def openNamed? (p : Progress) (s : List Char) : Option (Progress × List Char) :=
  let name := s.takeWhile (· ≠ '>')
  match s.dropWhile (· ≠ '>') with
  | _ :: rest =>
    if isGroupName name && !p.names.contains name then
      some ({ p.enter p.mode with names := name :: p.names }, rest)
    else none
  | [] => none

/-- Opens a group or sets flags, from the character after the parenthesis on. -/
def openGroup? (p : Progress) (s : List Char) : Option (Progress × List Char) :=
  match p.mode.skip s with
  | '?' :: 'P' :: '<' :: rest => openNamed? p rest
  | '?' :: '<' :: rest => openNamed? p rest
  | '?' :: rest =>
    let isEnd (c : Char) : Bool := c == ':' || c == ')'
    let flags := rest.takeWhile (!isEnd ·)
    match p.mode.ofFlags? flags, rest.dropWhile (!isEnd ·) with
    | some m, ':' :: after => some (p.enter m, after)
    | some m, _ :: after =>
      if flags = [] then none else some ({ p with mode := m, repeatable := false }, after)
    | _, _ => none
  | rest => some (p.enter p.mode, rest)

def skipLazy : List Char → List Char
  | '?' :: rest => rest
  | s => s

/-- Whether a pattern can be read to its end; the number bounds the steps. -/
def isReadable : Nat → Progress → List Char → Bool
  | 0, _, _ => false
  | n + 1, p, s =>
    let operand := { p with repeatable := true }
    match p.mode.skip s with
    | [] => p.groups.isEmpty
    | '(' :: rest =>
      match openGroup? p rest with
      | some (p, after) => isReadable n p after
      | none => false
    | ')' :: rest =>
      match p.groups with
      | [] => false
      | m :: groups => isReadable n { operand with mode := m, groups } rest
    | '|' :: rest => isReadable n { p with repeatable := false } rest
    | '[' :: rest =>
      match (openClass? p.mode rest).bind (readClass? p.mode s.length 0) with
      | some after => !(p.mode.unicode && p.mode.ignoreCase) && isReadable n operand after
      | none => false
    | '?' :: rest | '*' :: rest | '+' :: rest =>
      p.repeatable && isReadable n operand (skipLazy rest)
    | '\x7b' :: _ => false
    | '\\' :: rest =>
      match readEscape? p.mode rest with
      | some (atom, after) => p.mode.admits atom && isReadable n operand after
      | none => false
    | '.' :: rest => p.mode.unicode && isReadable n operand rest
    | '^' :: rest | '$' :: rest => isReadable n operand rest
    | c :: rest => p.mode.admits (.char c false) && isReadable n operand rest

end Pattern

def isPattern (s : List Char) : Bool :=
  Pattern.isReadable (s.length + 1) .initial s

def numberWords : List String := ["inf", "infinity", "nan"]

def isNumber (s : List Char) : Bool :=
  (Text.Double.read? s).isSome ||
    numberWords.contains (String.ofList ((Text.takeSign s).2.map Char.toLower))

end Gradebook.Settings
