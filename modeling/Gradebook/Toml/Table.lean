import Gradebook.Toml.Scalar

/-!
# TOML tables

How statements define tables.  A header defines a table once, or adds one to an array of tables;
tables above it come into being as needed.  A dotted key reaches only into tables that dotted keys
have made, and no key is given twice.
-/

namespace Gradebook.Toml

/-- How a table came into being. -/
structure Origin where
  /-- No header or key has defined the table itself. -/
  implied : Bool
  /-- The table was made by a dotted key. -/
  dotted : Bool
deriving DecidableEq

inductive Item where
  | leaf (v : Value)
  | table (o : Origin) (entries : List (String × Item))
  /-- An array of tables, the last one first. -/
  | tables (entries : List (List (String × Item)))

instance : Inhabited Item := ⟨.leaf default⟩

abbrev Entries := List (String × Item)

namespace Entries

def replace (es : Entries) (key : String) (i : Item) : Entries :=
  es.map fun e => if e.1 = key then (key, i) else e

/-- Applies a change to the table that a path leads to from a table; `dotted` tells that the path
is written in a key. -/
def within (dotted : Bool) (change : Origin → Entries → Option (Origin × Entries)) :
    List String → Origin → Entries → Option (Origin × Entries)
  | [], o, es => change o es
  | key :: path, o, es =>
    match es.lookup key with
    | none => do
      let (p, fs) ← within dotted change path ⟨true, dotted⟩ []
      some (o, es ++ [(key, .table p fs)])
    | some (.leaf _) => none
    | some (.tables []) => none
    | some (.tables (last :: earlier)) => do
      let (_, fs) ← within dotted change path ⟨false, false⟩ last
      some (o, replace es key (.tables (fs :: earlier)))
    | some (.table p fs) =>
      if dotted && !p.implied then none
      else do
        let (p, fs) ← within dotted change path p fs
        some (o, replace es key (.table p fs))

def define (key : List String) (v : Value) (o : Origin) (es : Entries) :
    Option (Origin × Entries) :=
  match key.getLast? with
  | none => none
  | some last =>
    let path := key.dropLast
    let change (p : Origin) (fs : Entries) : Option (Origin × Entries) :=
      if p.dotted == path.isEmpty || (fs.lookup last).isSome then none
      else some (p, fs ++ [(last, .leaf v)])
    within true change path o es

def openTable (header : List String) (o : Origin) (es : Entries) : Option (Origin × Entries) :=
  match header.getLast? with
  | none => none
  | some last =>
    let change (p : Origin) (fs : Entries) : Option (Origin × Entries) :=
      match fs.lookup last with
      | none => some (p, fs ++ [(last, .table ⟨false, false⟩ [])])
      | some (.table q gs) =>
        if q.implied && !q.dotted then some (p, replace fs last (.table ⟨false, false⟩ gs))
        else none
      | _ => none
    within false change header.dropLast o es

/-- Adds a table to the array of tables of a header. -/
def addTable (header : List String) (o : Origin) (es : Entries) : Option (Origin × Entries) :=
  match header.getLast? with
  | none => none
  | some last =>
    let change (p : Origin) (fs : Entries) : Option (Origin × Entries) :=
      match fs.lookup last with
      | none => some (p, fs ++ [(last, .tables [[]])])
      | some (.tables ts) => some (p, replace fs last (.tables ([] :: ts)))
      | _ => none
    within false change header.dropLast o es

end Entries

mutual

def Item.toValue : Item → Value
  | .leaf v => v
  | .table _ es => .table (toEntries es)
  | .tables ts => .array (toTables ts).reverse

def toEntries : Entries → List (String × Value)
  | [] => []
  | (k, i) :: rest => (k, i.toValue) :: toEntries rest

def toTables : List Entries → List Value
  | [] => []
  | es :: rest => .table (toEntries es) :: toTables rest

end

/-- The table of keys and values as they stand in a table on one line. -/
def inlineTable? (pairs : List (List String × Value)) : Option Value := do
  let (_, es) ← pairs.foldlM (fun (o, es) (k, v) => Entries.define k v o es)
    ((⟨false, false⟩, []) : Origin × Entries)
  some (.table (toEntries es))

end Gradebook.Toml
