import Gradebook.Json.Token
import Gradebook.Json.Value

/-!
# Reading JSON texts

A text is read token by token.  The state says what may come next and holds the arrays and
objects that are still open; nesting is not limited.
-/

namespace Gradebook.Json

/-- An array or object that is still open: the items or members so far, the last one first. -/
inductive Frame where
  | array (items : List Value)
  | object (members : List (Option String × Value)) (name : Option String)

/-- What may come next, inside the open arrays and objects. -/
inductive ReadState where
  /-- A value; the array just opened may close instead. -/
  | value (mayClose : Bool) («open» : List Frame)
  | name (mayClose : Bool) (members : List (Option String × Value)) («open» : List Frame)
  | colon (members : List (Option String × Value)) (name : Option String) («open» : List Frame)
  /-- A value is complete: a comma or the close of the innermost array or object. -/
  | after (v : Value) («open» : List Frame)

/-- The object of some members, the last one first. -/
def objectOf (members : List (Option String × Value)) : Value :=
  match members.reverse.mapM fun m => m.1.map (·, m.2) with
  | some ms => .object ms
  | none => .unreadable

namespace ReadState

def step : ReadState → Token → Option ReadState
  | value _ fs, .null => some (after .null fs)
  | value _ fs, .bool b => some (after (.bool b) fs)
  | value _ fs, .integer n => some (after (.integer n) fs)
  | value _ fs, .decimal l => some (after (.decimal l) fs)
  | value _ fs, .string (some s) => some (after (.string s) fs)
  | value _ fs, .string none => some (after .unreadable fs)
  | value _ fs, .openArray => some (value true (.array [] :: fs))
  | value _ fs, .openObject => some (name true [] fs)
  | value true (.array items :: fs), .closeArray => some (after (.array items.reverse) fs)
  | name _ ms fs, .string s => some (colon ms s fs)
  | name true ms fs, .closeObject => some (after (objectOf ms) fs)
  | colon ms s fs, .colon => some (value false (.object ms s :: fs))
  | after v (.array items :: fs), .comma => some (value false (.array (v :: items) :: fs))
  | after v (.array items :: fs), .closeArray => some (after (.array (v :: items).reverse) fs)
  | after v (.object ms s :: fs), .comma => some (name false ((s, v) :: ms) fs)
  | after v (.object ms s :: fs), .closeObject => some (after (objectOf ((s, v) :: ms)) fs)
  | _, _ => none

def finished : ReadState → Option Value
  | after v [] => some v
  | _ => none

end ReadState

def Value.ofTokens? (ts : List Token) : Option Value :=
  (ts.foldlM ReadState.step (.value false [])).bind ReadState.finished

/-- The value that a text denotes. -/
def Value.read? (text : String) : Option Value :=
  (tokens? text.toList).bind Value.ofTokens?

end Gradebook.Json
