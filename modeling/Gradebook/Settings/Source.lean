import Gradebook.Json.Number
import Gradebook.Json.Reader
import Gradebook.Text.Case
import Gradebook.Toml.Reader

/-!
# Sources of settings

Settings come from a file of TOML or JSON and from environment variables.  Each source is a table
of values under names whose case does not matter; a later source goes over an earlier one, table by
table and value by value.  A name of a source may be a path that leads into tables and lists.
-/

namespace Gradebook.Settings

open Text (Double)

inductive Value where
  | null
  | bool (b : Bool)
  | integer (n : Int)
  | float (x : Double)
  | text (s : String)
  | list (items : List Value)
  | table (entries : List (String × Value))

instance : Inhabited Value := ⟨.null⟩

namespace Value

def entries : Value → List (String × Value)
  | table es => es
  | _ => []

def items : Value → List Value
  | list vs => vs
  | _ => []

def setEntry (es : List (String × Value)) (name : String) (v : Value) : List (String × Value) :=
  if es.any (·.1 = name) then es.map fun e => if e.1 = name then (name, v) else e
  else es ++ [(name, v)]

mutual

/-- Puts a value under a name of a root.  A table goes over what is there entry by entry, with
its names in lower case; any other value takes its place. -/
def put (name : String) (root : Value) : Value → Value
  | table es =>
    table (setEntry root.entries name
      (putAll ((root.entries.lookup name).getD (table [])) es))
  | v => table (setEntry root.entries name v)

def putAll (root : Value) : List (String × Value) → Value
  | [] => root
  | (name, v) :: rest => putAll (put (Text.lower name) root v) rest

end

end Value

/-- A step into a table or a list; an index below zero counts from the end. -/
inductive Step where
  | name (s : String)
  | index (i : Int)
deriving DecidableEq, Repr

namespace Value

/-- The items of a list with one at an index; nulls fill the room between. -/
def setItem (items : List Value) (i : Int) (v : Value) : List Value :=
  let n := items.length
  if 0 ≤ i then (items ++ List.replicate (i.toNat + 1 - n) null).set i.toNat v
  else if i.natAbs ≤ n then items.set (n - i.natAbs) v
  else v :: (List.replicate (i.natAbs - n - 1) null ++ items)

def item (items : List Value) (i : Int) : Value :=
  let place := if 0 ≤ i then some i.toNat
    else if i.natAbs ≤ items.length then some (items.length - i.natAbs) else none
  (place.bind (items[·]?)).getD null

/-- Puts a value at the end of a path; what stands in the way gives way to a table or a list. -/
def putAt (root v : Value) : List Step → Value
  | [] => v
  | [.name name] => put name root v
  | .name name :: path =>
    let inner := (root.entries.lookup name).getD null
    table (setEntry root.entries name (putAt inner v path))
  | .index i :: path => list (setItem root.items i (putAt (item root.items i) v path))

end Value

def isNameChar (c : Char) : Bool :=
  c.isAlphanum || c == '_' || c == '-' || c == ' '

/-- An index up to the bracket that closes it, and what follows; blanks may surround it. -/
def readIndex? (s : List Char) : Option (Int × List Char) :=
  let isSpace (c : Char) : Bool := c == ' ' || c == '\t'
  let s := s.dropWhile isSpace
  let (negative, s) := match s with
    | '-' :: rest => (true, rest)
    | _ => (false, s)
  let (ds, rest) := Text.digitRun s
  let n : Int := Text.digitsValue ds
  let n := if negative then -n else n
  match rest.dropWhile isSpace with
  | ']' :: after =>
    if ds ≠ [] && -9223372036854775808 ≤ n && n ≤ 9223372036854775807 then some (n, after) else none
  | _ => none

def readSteps? : Nat → List Char → Option (List Step)
  | _, [] => some []
  | 0, _ => none
  | n + 1, '.' :: rest =>
    match rest.takeWhile isNameChar with
    | [] => none
    | name => (.name (Text.lower (String.ofList name)) :: ·) <$>
        readSteps? n (rest.dropWhile isNameChar)
  | n + 1, '[' :: rest => do
    let (i, after) ← readIndex? rest
    (.index i :: ·) <$> readSteps? n after
  | _, _ => none

/-- The path of a top-level name: plain names after dots and indices after the first plain name,
or else the whole name. -/
def pathOfName (name : String) : List Step :=
  let s := name.toList
  ((readSteps? (s.length + 1) ('.' :: s))).getD [.name (Text.lower name)]

def overlay (root : Value) (source : List (String × Value)) : Value :=
  source.foldl (fun r (name, v) => r.putAt v (pathOfName name)) root

def variablePrefix : List Char := "tutor__".toList

/-- The text with each pair of underscores, from the left, as a dot. -/
def dotted : List Char → List Char
  | '_' :: '_' :: rest => '.' :: dotted rest
  | c :: rest => c :: dotted rest
  | [] => []

def ofVariable? (v : String × String) : Option (String × Value) :=
  let name := (Text.lower v.1).toList
  if variablePrefix.isPrefixOf name then
    some (String.ofList (dotted (name.drop variablePrefix.length)), .text v.2)
  else none

def ofEnvironment (env : List (String × String)) : List (String × Value) :=
  env.filterMap ofVariable?

/-- A TOML table whose first name is this one stands for the moment that is written there. -/
def momentName : String := "$__toml_private_datetime"

mutual

def ofToml? : Toml.Value → Option Value
  | .string s => some (.text s)
  | .integer n => some (.integer n)
  | .float x => some (.float x)
  | .bool b => some (.bool b)
  | .moment t => some (.text t)
  | .array items => (ofTomlItems? items).map .list
  | .table es => ofTomlTable? es

def ofTomlItems? : List Toml.Value → Option (List Value)
  | [] => some []
  | v :: rest => do some ((← ofToml? v) :: (← ofTomlItems? rest))

/-- The value of a TOML table: the text of the moment that it stands for, or a table. -/
def ofTomlTable? : List (String × Toml.Value) → Option Value
  | [] => some (.table [])
  | (k, v) :: rest =>
    if k = momentName then
      match v with
      | .string s => (Toml.readMomentText? s.toList).map fun t => .text (String.ofList t)
      | _ => none
    else do
      some (.table ((k, ← ofToml? v) :: (← ofTomlEntries? rest)))

def ofTomlEntries? : List (String × Toml.Value) → Option (List (String × Value))
  | [] => some []
  | (k, v) :: rest => do some ((k, ← ofToml? v) :: (← ofTomlEntries? rest))

end

def maxJsonDepth : Nat := 127

mutual

/-- The value of a JSON value; an integer past the words of 64 bits is a double. -/
def ofJson? : Json.Value → Option Value
  | .null => some .null
  | .bool b => some (.bool b)
  | .integer n =>
    if -9223372036854775808 ≤ n ∧ n ≤ 9223372036854775807 then some (.integer n)
    else (Json.double? (Json.writeInteger n)).map .float
  | .decimal literal => (Json.double? literal).map .float
  | .string s => some (.text s)
  | .unreadable => none
  | .array items => (ofJsonItems? items).map .list
  | .object ms => (ofJsonMembers? ms).map .table

def ofJsonItems? : List Json.Value → Option (List Value)
  | [] => some []
  | v :: rest => do some ((← ofJson? v) :: (← ofJsonItems? rest))

/-- The entries of a JSON object; of a repeated name the last value counts. -/
def ofJsonMembers? : List (String × Json.Value) → Option (List (String × Value))
  | [] => some []
  | (k, v) :: rest => do
    let value ← ofJson? v
    let es ← ofJsonMembers? rest
    some (if es.any (·.1 = k) then es else (k, value) :: es)

end

def readToml? (text : String) : Option (List (String × Value)) :=
  match (Toml.read? text).bind ofTomlTable? with
  | some (.table es) => some es
  | _ => none

def readJson? (text : String) : Option (List (String × Value)) :=
  match Json.Value.read? text with
  | some v =>
    if v.depth ≤ maxJsonDepth then
      match ofJson? v with
      | some (.table es) => some es
      | _ => none
    else none
  | none => none

end Gradebook.Settings
