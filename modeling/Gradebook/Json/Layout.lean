import Gradebook.Json.Token
import Gradebook.Json.Value

/-!
# Layout of JSON texts

The tokens of a value in order, and its two layouts: all on one line without spaces, and with one
item or member a line, indented by two spaces a level, where an array or object without content
stays on its line.
-/

namespace Gradebook.Json

namespace Value

mutual

def tokens : Value → List Token
  | null => [.null]
  | bool b => [.bool b]
  | integer n => [.integer n]
  | decimal literal => [.decimal literal]
  | string s => [.string (some s)]
  | unreadable => [.string none]
  | array [] => [.openArray, .closeArray]
  | array (v :: rest) => .openArray :: (tokens v ++ tokensOfItems rest)
  | object [] => [.openObject, .closeObject]
  | object ((k, v) :: rest) =>
    .openObject :: .string (some k) :: .colon :: (tokens v ++ tokensOfMembers rest)

/-- The tokens of the items after the first and of the close of their array. -/
def tokensOfItems : List Value → List Token
  | [] => [.closeArray]
  | v :: rest => .comma :: (tokens v ++ tokensOfItems rest)

def tokensOfMembers : List (String × Value) → List Token
  | [] => [.closeObject]
  | (k, v) :: rest => .comma :: .string (some k) :: .colon :: (tokens v ++ tokensOfMembers rest)

end

def compact (v : Value) : String :=
  String.ofList (v.tokens.flatMap Token.write)

end Value

def newLine (level : Nat) : List Char :=
  '\n' :: List.replicate (2 * level) ' '

namespace Value

mutual

/-- The characters of a value at a level of indentation. -/
def layout (level : Nat) : Value → List Char
  | null => Token.null.write
  | bool b => (Token.bool b).write
  | integer n => (Token.integer n).write
  | decimal literal => literal
  | string s => (Token.string (some s)).write
  | unreadable => (Token.string none).write
  | array [] => ['[', ']']
  | array (v :: rest) =>
    '[' :: newLine (level + 1) ++ layout (level + 1) v ++ layoutItems level rest
  | object [] => ['\x7b', '\x7d']
  | object ((k, v) :: rest) =>
    '\x7b' :: newLine (level + 1) ++ quote k.toList ++ ':' :: ' ' :: layout (level + 1) v ++
      layoutMembers level rest

/-- The items after the first and the close of their array. -/
def layoutItems (level : Nat) : List Value → List Char
  | [] => newLine level ++ [']']
  | v :: rest =>
    ',' :: newLine (level + 1) ++ layout (level + 1) v ++ layoutItems level rest

def layoutMembers (level : Nat) : List (String × Value) → List Char
  | [] => newLine level ++ ['\x7d']
  | (k, v) :: rest =>
    ',' :: newLine (level + 1) ++ quote k.toList ++ ':' :: ' ' :: layout (level + 1) v ++
      layoutMembers level rest

end

def pretty (v : Value) : String :=
  String.ofList (v.layout 0)

end Value

end Gradebook.Json
