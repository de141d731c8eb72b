import Gradebook.Text.Case.Table

/-!
# Upper and lower case

Full case mapping of texts: a character may map to several, and a capital sigma that ends a word
maps to the final small sigma.
-/

namespace Gradebook.Text

/-- The mapping of one character under a table of runs and a table of longer mappings. -/
def mapCase (runs : List CaseRun) (expansions : List (Nat × List Nat)) (c : Char) : List Char :=
  match expansions.lookup c.toNat with
  | some codes => codes.map Char.ofNat
  | none =>
    match runs.find? (·.covers c.toNat) with
    | some r => [Char.ofNat (r.target c.toNat)]
    | none => [c]

def upperOf (c : Char) : List Char :=
  mapCase upperRuns upperExpansions c

def lowerOf (c : Char) : List Char :=
  mapCase lowerRuns lowerExpansions c

def upper (s : String) : String :=
  String.ofList (s.toList.flatMap upperOf)

def inRanges (ranges : List (Nat × Nat)) (c : Char) : Bool :=
  ranges.any fun r => r.1 ≤ c.toNat && c.toNat ≤ r.2

def isCased (c : Char) : Bool :=
  inRanges casedRanges c

/-- A character that casing looks through. -/
def isCaseIgnorable (c : Char) : Bool :=
  inRanges caseIgnorableRanges c

def meetsCased (s : List Char) : Bool :=
  match s.dropWhile isCaseIgnorable with
  | [] => false
  | c :: _ => isCased c

/-- The small sigma for a capital one between the characters `before` (nearest first) and
`after`: the final form where a word ends. -/
def sigmaBetween (before after : List Char) : Char :=
  if meetsCased before && !meetsCased after then 'ς' else 'σ'

def lowerFrom (before : List Char) : List Char → List Char
  | [] => []
  | c :: rest =>
    (if c = 'Σ' then [sigmaBetween before rest] else lowerOf c) ++ lowerFrom (c :: before) rest

def lower (s : String) : String :=
  String.ofList (lowerFrom [] s.toList)

end Gradebook.Text
