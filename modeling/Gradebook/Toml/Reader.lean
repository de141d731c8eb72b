import Gradebook.Toml.Quoted
import Gradebook.Toml.Scalar
import Gradebook.Toml.Table

/-!
# Reading TOML documents

A document is a list of lines, each with a header, a key with its value, or nothing, and perhaps a
comment.  The reading of values takes a bound on the number of steps, for which the length of the
text always suffices.
-/

namespace Gradebook.Toml

def skipLineSpace (s : List Char) : List Char :=
  s.dropWhile isLineSpace

/-- What follows a comment up to the end of its line; control characters are refused. -/
def skipComment? (s : List Char) : Option (List Char) :=
  match s with
  | '#' :: rest =>
    match rest.dropWhile (!isControl ·) with
    | [] => some []
    | '\n' :: after => some ('\n' :: after)
    | '\r' :: '\n' :: after => some ('\n' :: after)
    | _ => none
  | _ => some s

/-- What follows the end of a line, where only white space and a comment may stand before it. -/
def endLine? (s : List Char) : Option (List Char) := do
  match ← skipComment? (skipLineSpace s) with
  | [] => some []
  | '\n' :: rest | '\r' :: '\n' :: rest => some rest
  | _ => none

def skipBetween? : Nat → List Char → Option (List Char)
  | 0, s => some s
  | n + 1, s => do
    match skipLineSpace s with
    | '\n' :: rest | '\r' :: '\n' :: rest => skipBetween? n rest
    | '#' :: rest => skipBetween? n (← skipComment? ('#' :: rest))
    | t => some t

def isBareChar (c : Char) : Bool :=
  c.isAlphanum || c == '_' || c == '-'

def readKeyPart? (s : List Char) : Option (String × List Char) :=
  match readLineString? s with
  | some (k, rest) => some (String.ofList k, rest)
  | none =>
    match s.takeWhile isBareChar with
    | [] => none
    | k => some (String.ofList k, s.dropWhile isBareChar)

def readKey? : Nat → List Char → Option (List String × List Char)
  | 0, _ => none
  | n + 1, s => do
    let (part, rest) ← readKeyPart? (skipLineSpace s)
    match skipLineSpace rest with
    | '.' :: more => (readKey? n more).map fun (parts, t) => (part :: parts, t)
    | t => some ([part], t)

/-- How deeply arrays and tables may be nested, and the number of parts of a key. -/
def maxDepth : Nat := 79

mutual

/-- A value, and what follows; `depth` counts the arrays and tables around it. -/
def readValue? : Nat → Nat → List Char → Option (Value × List Char)
  | 0, _, _ => none
  | n + 1, depth, s =>
    match s with
    | '"' :: _ | '\'' :: _ =>
      (readString? s).map fun (cs, rest) => (.string (String.ofList cs), rest)
    | '[' :: rest =>
      if maxDepth ≤ depth then none
      else (readItems? n (depth + 1) rest).map fun (vs, t) => (.array vs, t)
    | '\x7b' :: rest =>
      if maxDepth ≤ depth then none
      else
        match skipLineSpace rest with
        | '\x7d' :: t => some (.table [], t)
        | t => do
          let (pairs, t) ← readPairs? n (depth + 1) t
          (inlineTable? pairs).map (·, t)
    | _ => takeScalar? s

def readItems? : Nat → Nat → List Char → Option (List Value × List Char)
  | 0, _, _ => none
  | n + 1, depth, s => do
    match ← skipBetween? s.length s with
    | ']' :: rest => some ([], rest)
    | t => do
      let (v, t) ← readValue? n depth t
      match ← skipBetween? t.length t with
      | ',' :: rest => (readItems? n depth rest).map fun (vs, u) => (v :: vs, u)
      | ']' :: rest => some ([v], rest)
      | _ => none

def readPairs? : Nat → Nat → List Char → Option (List (List String × Value) × List Char)
  | 0, _, _ => none
  | n + 1, depth, s => do
    let (key, t) ← readKey? s.length s
    if maxDepth < key.length then none
    else
      match t with
      | '=' :: rest => do
        let (v, t) ← readValue? n depth (skipLineSpace rest)
        match skipLineSpace t with
        | ',' :: rest => (readPairs? n depth rest).map fun (ps, u) => ((key, v) :: ps, u)
        | '\x7d' :: rest => some ([(key, v)], rest)
        | _ => none
      | _ => none

end

inductive Statement where
  | header (path : List String)
  | arrayHeader (path : List String)
  | entry (key : List String) (v : Value)

def readStatement? (s : List Char) : Option (Statement × List Char) :=
  match s with
  | '[' :: '[' :: rest => do
    let (path, t) ← readKey? rest.length rest
    match t with
    | ']' :: ']' :: after =>
      if maxDepth < path.length then none else some (.arrayHeader path, after)
    | _ => none
  | '[' :: rest => do
    let (path, t) ← readKey? rest.length rest
    match t with
    | ']' :: after => if maxDepth < path.length then none else some (.header path, after)
    | _ => none
  | _ => do
    let (key, t) ← readKey? s.length s
    match t with
    | '=' :: rest => do
      let (v, after) ← readValue? (rest.length + 1) 0 (skipLineSpace rest)
      if maxDepth < key.length then none else some (.entry key v, after)
    | _ => none

/-- The statements of a text, whose lines are at most a given number. -/
def readStatements? : Nat → List Char → Option (List Statement)
  | 0, s => if s = [] then some [] else none
  | n + 1, s =>
    match endLine? s with
    | some [] => some []
    | some rest => readStatements? n rest
    | none => do
      let (statement, rest) ← readStatement? (skipLineSpace s)
      (statement :: ·) <$> readStatements? n (← endLine? rest)

/-- A document under construction, with the header under which keys are defined. -/
structure Document where
  entries : Entries
  header : List String

def Document.add? (d : Document) : Statement → Option Document
  | .header path => do
    let (_, es) ← Entries.openTable path ⟨false, false⟩ d.entries
    some ⟨es, path⟩
  | .arrayHeader path => do
    let (_, es) ← Entries.addTable path ⟨false, false⟩ d.entries
    some ⟨es, path⟩
  | .entry key v => do
    let (_, es) ← Entries.within false (Entries.define key v) d.header ⟨false, false⟩ d.entries
    some ⟨es, d.header⟩

def read? (text : String) : Option (List (String × Value)) := do
  let s := match text.toList with
    | '\uFEFF' :: rest => rest
    | s => s
  let statements ← readStatements? (s.length + 1) s
  let d ← statements.foldlM Document.add? ⟨[], []⟩
  some (toEntries d.entries)

end Gradebook.Toml
