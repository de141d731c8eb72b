/-!
# Requests

What a command line asks for: how results are shown, where things are kept, and one thing to do.
-/

namespace Gradebook.Terminal

inductive Format where
  | table
  | json
  | yaml
deriving DecidableEq, Repr

def Format.ofName? : String → Option Format
  | "table" => some .table
  | "json" => some .json
  | "yaml" => some .yaml
  | _ => none

/-- What holds for every request. -/
structure General where
  format : Format
  dataDirectory : Option String
  settings : Option String
  noColor : Bool
  verbose : Bool
deriving DecidableEq, Repr

/-- One thing to do.  A student is meant by identity or name; where none is given, it is the
selected one. -/
inductive Request where
  | addStudent (name : String) (select : Bool)
  | listStudents (query : Option String)
  | selectStudent (student : String)
  | showStudent (student : Option String)
  /-- Carry a typed line out, given as its words. -/
  | run (student : Option String) (words : List String)
  /-- Carry lines out as they are typed. -/
  | console (student : Option String)
  | listHomework (student : Option String) (all : Bool)
  | completeHomework (homework : String) (student : Option String)
  | rankings
  | recentStamps (limit : Option Nat)
  | resetStamps (student : Option String) (force : Bool)
  | recentGrades (limit : Option Nat)
  | wrongAnswers (student : Option String) (today : Bool)
  | setPreference (name text : String)
  | getPreference (name : String)
  | showPreferences
  | resetPreferences (force : Bool)
deriving DecidableEq, Repr

end Gradebook.Terminal
