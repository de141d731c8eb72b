import Gradebook.Terminal.Request
import Gradebook.Text.Decimal

/-!
# Flags

The flags of the command line with their names, and which subcommand takes which of them.
-/

namespace Gradebook.Terminal

inductive Flag where
  | format
  | dataDirectory
  | settings
  | noColor
  | verbose
  | help
  | version
  | select
  | query
  | student
  | all
  | limit
  | force
  | today
deriving DecidableEq, Repr

namespace Flag

def longName : Flag → String
  | format => "output"
  | dataDirectory => "data-dir"
  | settings => "config"
  | noColor => "no-color"
  | verbose => "verbose"
  | help => "help"
  | version => "version"
  | select => "select"
  | query => "search"
  | student => "student"
  | all => "all"
  | limit => "limit"
  | force => "force"
  | today => "today"

def letter? : Flag → Option Char
  | format => some 'o'
  | verbose => some 'v'
  | help => some 'h'
  | version => some 'V'
  | select | query | student => some 's'
  | all => some 'a'
  | limit => some 'l'
  | force => some 'f'
  | today => some 't'
  | dataDirectory | settings | noColor => none

def takesValue : Flag → Bool
  | format | dataDirectory | settings | query | student | limit => true
  | _ => false

/-- The bound of limits: they fit 64 bits. -/
def limitBound : Nat := 18446744073709551616

def limitOf? (text : String) : Option Nat :=
  Text.natBelow? limitBound text.toList

def accepts (f : Flag) (text : String) : Bool :=
  match f with
  | format => (Format.ofName? text).isSome
  | dataDirectory | settings => text ≠ ""
  | limit => (limitOf? text).isSome
  | _ => true

def general : List Flag :=
  [format, dataDirectory, settings, noColor, verbose, help, version]

end Flag

/-- What follows the name of a subcommand: other subcommands, or flags of its own and operands,
which may be the words of a line. -/
inductive Shape where
  | group (names : List String)
  | single (flags : List Flag) (operands : Nat)
  | line (flags : List Flag)

namespace Shape

def ofPath? : List String → Option Shape
  | [] => some (.group ["student", "run", "console", "homework", "stamps", "logs", "config"])
  | ["student"] => some (.group ["add", "list", "select", "show"])
  | ["student", "add"] => some (.single [.select] 1)
  | ["student", "list"] => some (.single [.query] 0)
  | ["student", "select"] => some (.single [] 1)
  | ["student", "show"] => some (.single [] 1)
  | ["run"] => some (.line [.student])
  | ["console"] => some (.single [.student] 0)
  | ["homework"] => some (.group ["list", "complete"])
  | ["homework", "list"] => some (.single [.student, .all] 0)
  | ["homework", "complete"] => some (.single [.student] 1)
  | ["stamps"] => some (.group ["rankings", "recent", "reset"])
  | ["stamps", "rankings"] => some (.single [] 0)
  | ["stamps", "recent"] => some (.single [.limit] 0)
  | ["stamps", "reset"] => some (.single [.force] 1)
  | ["logs"] => some (.group ["recent", "wrong"])
  | ["logs", "recent"] => some (.single [.limit] 0)
  | ["logs", "wrong"] => some (.single [.student, .today] 0)
  | ["config"] => some (.group ["set", "get", "show", "reset"])
  | ["config", "set"] => some (.single [] 2)
  | ["config", "get"] => some (.single [] 1)
  | ["config", "show"] => some (.single [] 0)
  | ["config", "reset"] => some (.single [.force] 0)
  | _ => none

/-- The name of the subcommand of every group that explains the others. -/
def helpName : String := "help"

def names : Shape → List String
  | group names => helpName :: names
  | _ => []

def flags : Shape → List Flag
  | group _ => Flag.general
  | single flags _ => Flag.general ++ flags
  | line flags => Flag.general ++ flags

def isLine : Shape → Bool
  | line _ => true
  | _ => false

/-- Whether another operand may follow a number of them. -/
def hasRoom : Shape → Nat → Bool
  | group _, _ => false
  | single _ operands, n => n < operands
  | line _, _ => true

def flagNamed? (s : Shape) (name : String) : Option Flag :=
  s.flags.find? (·.longName = name)

def flagLettered? (s : Shape) (letter : Char) : Option Flag :=
  s.flags.find? (·.letter? = some letter)

end Shape

end Gradebook.Terminal
