import Gradebook.Json.Value
import Gradebook.Yaml.Scalar

/-!
# Layout of YAML texts

The block layout of values: an item or a member a line, members of members indented by two blanks,
items at the indentation of their key.
-/

namespace Gradebook.Yaml

open Json (Value)

def endLine (s : List Char) : List Char :=
  if s.getLast?.any isBreak then s else s ++ ['\n']

/-- The longest key, in bytes, that is written in front of its colon without a mark. -/
def maxKeyBytes : Nat := 128

/-- A key up to its colon.  A key that is long or has several lines is marked, and its colon
stands on the next line. -/
def writeKey (indent : Nat) (key : String) : List Char :=
  let text := writeText (indent + 2) key.toList
  if key.toList.any isBreak || maxKeyBytes < key.utf8ByteSize then
    ['?', ' '] ++ endLine text ++ indentation indent ++ [':']
  else text ++ [':']

def writeLeaf (indent : Nat) : Value → List Char
  | .null | .unreadable => ['n', 'u', 'l', 'l', '\n']
  | .bool b => (if b then "true\n" else "false\n").toList
  | .integer n => (toString n ++ "\n").toList
  | .decimal literal => literal ++ ['\n']
  | .string s => endLine (writeText (indent + 2) s.toList)
  | .array _ => ['[', ']', '\n']
  | .object _ => ['\x7b', '\x7d', '\n']

mutual

def writeItems (indent : Nat) : List Value → List Char
  | [] => []
  | v :: rest =>
    let inner := match v with
      | .array (w :: items) => (writeItems (indent + 2) (w :: items)).drop (indent + 2)
      | .object (m :: members) => (writeMembers (indent + 2) (m :: members)).drop (indent + 2)
      | leaf => writeLeaf indent leaf
    indentation indent ++ ['-', ' '] ++ inner ++ writeItems indent rest

def writeMembers (indent : Nat) : List (String × Value) → List Char
  | [] => []
  | (key, v) :: rest =>
    let inner := match v with
      | .array (w :: items) => '\n' :: writeItems indent (w :: items)
      | .object (m :: members) => '\n' :: writeMembers (indent + 2) (m :: members)
      | leaf => ' ' :: writeLeaf indent leaf
    indentation indent ++ writeKey indent key ++ inner ++ writeMembers indent rest

end

def layout : Value → String
  | .array (v :: items) => String.ofList (writeItems 0 (v :: items))
  | .object (m :: members) => String.ofList (writeMembers 0 (m :: members))
  | leaf => String.ofList (writeLeaf 0 leaf)

end Gradebook.Yaml
