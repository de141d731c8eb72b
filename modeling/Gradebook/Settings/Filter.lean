import Gradebook.Settings.Pattern
import Gradebook.Text.Decimal

/-!
# Log filters

A log filter is a list of directives with commas between them.  A directive names a level, or a
target, or a span in brackets with fields in braces, the latter two perhaps with a level after an
equals sign.  A bare word that is no level is a target.  A field may have a value, which is a number
or a pattern.

A directive begins with its first character that is no white space.  Its levels and fields are cut
out of the text by their distance in bytes from that character, but counted from the start of the
text, so that white space in front of a directive shifts them.
-/

namespace Gradebook.Settings

def levelNames : List String := ["error", "warn", "info", "debug", "trace", "off"]

/-- Whether a text is a log level: a number up to five, a name in any case, or nothing. -/
def isLevel (s : List Char) : Bool :=
  s = [] || (Text.natBelow? 6 s).isSome || String.ofList (s.map Char.toLower) ∈ levelNames

/-- Whether a text is a field: a name, perhaps with a value between its first two equals signs. -/
def isField (s : List Char) : Bool :=
  s ≠ [] &&
    match s.dropWhile (· ≠ '=') with
    | [] => true
    | _ :: rest =>
      let value := rest.takeWhile (· ≠ '=')
      isPattern value || isNumber value

/-- What follows a number of bytes, unless they end inside a character. -/
def dropBytes? : Nat → List Char → Option (List Char)
  | 0, s => some s
  | _, [] => none
  | n, c :: rest => if c.utf8Size ≤ n then dropBytes? (n - c.utf8Size) rest else none

def takeBytes? : Nat → List Char → Option (List Char)
  | 0, _ => some []
  | _, [] => none
  | n, c :: rest =>
    if c.utf8Size ≤ n then (c :: ·) <$> takeBytes? (n - c.utf8Size) rest else none

def between? (s : List Char) (first last : Nat) : Option (List Char) :=
  (dropBytes? first s).bind (takeBytes? (last - first))

/-- How far a directive has been read. -/
inductive DirectiveState where
  | start
  /-- A word that is a level or a target. -/
  | word
  | span
  /-- A field of a span that begins at a distance. -/
  | field (first : Nat)
  /-- The fields of a span are closed. -/
  | fields
  /-- A span is closed. -/
  | target
  /-- A level that begins at a distance. -/
  | level (first : Nat)
  | complete
deriving DecidableEq

namespace DirectiveState

/-- The state after one more character of a directive in a text, at a distance. -/
def step (text : List Char) (s : DirectiveState) (distance : Nat) (c : Char) :
    Option DirectiveState :=
  match s, c with
  | start, '[' => some span
  | start, c =>
    if c = '-' || c = ':' || c = '_' || Text.isAlphanumeric c then some word else none
  | word, '=' => some (level (distance + 1))
  | word, '[' => some span
  | word, ',' => some complete
  | word, _ => some word
  | target, '=' => some (level (distance + 1))
  | span, ']' => some target
  | span, '\x7b' => some (field (distance + 1))
  | span, _ => some span
  | field first, '\x7d' => if (between? text first distance).any isField then some fields else none
  | field first, ',' =>
    if (between? text first distance).any isField then some (field (distance + 1)) else none
  | field first, _ => some (field first)
  | fields, ']' => some target
  | level first, ',' => if (between? text first distance).any isLevel then some complete else none
  | level first, _ => some (level first)
  | _, _ => none

def run (text : List Char) (s : DirectiveState) (distance : Nat) :
    List Char → Option DirectiveState
  | [] => some s
  | c :: rest => (s.step text distance c).bind fun s => s.run text (distance + c.utf8Size) rest

def accepts (text : List Char) : DirectiveState → Bool
  | word | target | complete => true
  | level first => (dropBytes? first text).any isLevel
  | _ => false

end DirectiveState

def isDirective (text : String) : Bool :=
  let s := text.toList
  (DirectiveState.start.run s 0 (Text.trimEndOf (Text.trimStartOf s))).any (·.accepts s)

/-- Whether a text is a log filter; what is empty between commas is passed over. -/
def isFilter (text : String) : Bool :=
  ((text.splitOn ",").filter (· ≠ "")).all isDirective

end Gradebook.Settings
