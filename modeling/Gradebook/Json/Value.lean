/-!
# JSON values

A value of a JSON text.  Numbers with a fraction or an exponent, and the negative zero, are kept
as they are written, since no record holds one.  Objects keep their members in order, repeated
names included.
-/

namespace Gradebook.Json

inductive Value where
  | null
  | bool (b : Bool)
  | integer (n : Int)
  /-- A number with a fraction or an exponent, or the negative zero, as written. -/
  | decimal (literal : List Char)
  | string (s : String)
  /-- A string, or an object with a name, that holds an unpaired surrogate: it can be passed over
  but not read. -/
  | unreadable
  | array (items : List Value)
  | object (members : List (String × Value))

namespace Value

instance : Inhabited Value := ⟨null⟩

mutual

def depth : Value → Nat
  | array items => depthOfItems items + 1
  | object members => depthOfMembers members + 1
  | _ => 0

def depthOfItems : List Value → Nat
  | [] => 0
  | v :: rest => max v.depth (depthOfItems rest)

def depthOfMembers : List (String × Value) → Nat
  | [] => 0
  | (_, v) :: rest => max v.depth (depthOfMembers rest)

end

mutual

/-- Whether every string and name in the value can be read. -/
def isReadable : Value → Bool
  | unreadable => false
  | array items => areItemsReadable items
  | object members => areMembersReadable members
  | _ => true

def areItemsReadable : List Value → Bool
  | [] => true
  | v :: rest => v.isReadable && areItemsReadable rest

def areMembersReadable : List (String × Value) → Bool
  | [] => true
  | (_, v) :: rest => v.isReadable && areMembersReadable rest

end

end Value

end Gradebook.Json
