import Gradebook.Ledger.Views
import Gradebook.Settings.Filter
import Gradebook.Settings.Source

/-!
# Settings

Where the records are stored, how many recent ones are shown, and how the program logs.  Each
setting has a default.  A value of another kind is converted where that has a plain meaning, such
as a number in a text.
-/

namespace Gradebook

inductive LogFormat where
  | json
  | pretty
  | compact
deriving DecidableEq, Repr

structure LogSettings where
  level : String
  format : LogFormat
  moduleLevels : List (String × String)
  includeLocation : Bool
  includeTarget : Bool
deriving DecidableEq

structure Settings where
  dataDirectory : String
  recentLimit : Nat
  logging : LogSettings
deriving DecidableEq

namespace Settings

def defaultLogging : LogSettings := ⟨"warn", .compact, [], false, true⟩

def default : Settings := ⟨".tutor", defaultRecentLimit, defaultLogging⟩

namespace Value

def wordBound : Nat := 18446744073709551616

def toNat? : Value → Option Nat
  | integer n => if 0 ≤ n then some n.toNat else none
  | bool b => some b.toNat
  | float x => some (x.toNatBelow wordBound)
  | text s =>
    let word := Text.lower s
    if word = "true" ∨ word = "on" ∨ word = "yes" then some 1
    else if word = "false" ∨ word = "off" ∨ word = "no" then some 0
    else Text.natBelow? wordBound s.toList
  | _ => none

def toBool? : Value → Option Bool
  | bool b => some b
  | integer n => some (n ≠ 0)
  | float x => some x.isNonzero
  | text s =>
    let word := Text.lower s
    if word = "1" ∨ word = "true" ∨ word = "on" ∨ word = "yes" then some true
    else if word = "0" ∨ word = "false" ∨ word = "off" ∨ word = "no" then some false
    else none
  | _ => none

def toText? : Value → Option String
  | text s => some s
  | bool b => some (if b then "true" else "false")
  | integer n => some (toString n)
  | float x => some (String.ofList x.write)
  | _ => none

/-- A value as a shape of log lines: a name in any case, or a table with such a name alone. -/
def toLogFormat? (v : Value) : Option LogFormat :=
  let named (s : String) : Option LogFormat :=
    match Text.lower s with
    | "json" => some .json
    | "pretty" => some .pretty
    | "compact" => some .compact
    | _ => none
  match v with
  | text s => named s
  | table [(s, _)] => named s
  | _ => none

def toTexts? : Value → Option (List (String × String))
  | table es => es.mapM fun (k, v) => v.toText?.map (k, ·)
  | _ => none

/-- The values of a group of settings under their names: by name from a table, by position from
a list. -/
def fields? (names : List String) : Value → Option (List (Option Value))
  | table es => some (names.map fun name => es.lookup name)
  | list items => some ((List.range names.length).map (items[·]?))
  | _ => none

end Value

def storage? (v : Value) : Option String :=
  match v.fields? ["data_dir"] with
  | some [d] => d.elim (some default.dataDirectory) Value.toText?
  | _ => none

def views? (v : Value) : Option Nat :=
  match v.fields? ["recent_limit"] with
  | some [n] => n.elim (some default.recentLimit) Value.toNat?
  | _ => none

def logging? (v : Value) : Option LogSettings :=
  match v.fields? ["level", "format", "module_levels", "include_location", "include_target"] with
  | some [level, format, modules, location, target] => do
    let d := defaultLogging
    some ⟨← level.elim (some d.level) Value.toText?,
      ← format.elim (some d.format) Value.toLogFormat?,
      ← modules.elim (some d.moduleLevels) Value.toTexts?,
      ← location.elim (some d.includeLocation) Value.toBool?,
      ← target.elim (some d.includeTarget) Value.toBool?⟩
  | _ => none

def ofValue? (v : Value) : Option Settings :=
  match v.fields? ["storage", "logging", "views"] with
  | some [storage, logging, views] => do
    some ⟨← storage.elim (some default.dataDirectory) storage?,
      ← views.elim (some default.recentLimit) views?,
      ← logging.elim (some defaultLogging) logging?⟩
  | _ => none

/-- The settings of sources, each over the one before it. -/
def ofSources? (sources : List (List (String × Value))) : Option Settings :=
  ofValue? (sources.foldl overlay (.table []))

def withLevel (s : Settings) (level : String) : Settings :=
  { s with logging := { s.logging with level } }

end Settings

/-- Whether the levels of log settings make a log filter. -/
def LogSettings.isAccepted (l : LogSettings) : Bool :=
  Settings.isFilter l.level &&
    l.moduleLevels.all fun (name, level) => Settings.isDirective s!"{name}={level}"

end Gradebook
