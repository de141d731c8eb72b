import Gradebook.Files.Tree
import Gradebook.Settings.Basic

/-!
# Settings files

A settings file is written in TOML or JSON, as its name ends.  A name may leave the ending out.  A
file that is not there or holds no text sets nothing.
-/

namespace Gradebook.Settings

inductive Format where
  | toml
  | json
deriving DecidableEq, Repr

namespace Format

def all : List Format := [toml, json]

def ending : Format → String
  | toml => ".toml"
  | json => ".json"

/-- The format that a name ends with; a name has something before its ending. -/
def ofName? (name : String) : Option Format :=
  all.find? fun f => name.endsWith f.ending && name ≠ f.ending

def read? : Format → String → Option (List (String × Value))
  | toml => readToml?
  | json => readJson?

end Format

/-- The settings file that a name leads to from a directory: the file there, which a slash at the
end rules out, or else one whose name has an ending added. -/
def locateFile (t : FileTree) (here : Path) (name : String) : Option (Path × Format) :=
  let path := Path.ofText here name
  let plain := path.filter (· ≠ ".")
  plain.getLast?.bind fun last =>
    if t.isFile path && !name.endsWith "/" then (Format.ofName? last).map (path, ·)
    else Format.all.findSome? fun f =>
      let longer := plain.dropLast ++ [last ++ f.ending]
      if last ≠ ".." && t.isFile longer then some (longer, f) else none

def ofFile? (t : FileTree) (here : Path) (name : String) : Option (List (String × Value)) :=
  match locateFile t here name with
  | none => some []
  | some (path, format) =>
    match t.readText path with
    | .ok text => format.read? text
    | .error _ => some []

/-- Why settings cannot be used. -/
inductive Problem where
  | unreadable
  | illTyped
deriving DecidableEq, Repr

def Problem.message : Problem → String
  | unreadable => "the settings file cannot be read"
  | illTyped => "a setting has a value that it cannot have"

/-- The settings of the file that a name leads to from a directory, with those of the environment
over them. -/
def load (t : FileTree) (here : Path) (name : Option String) (env : List (String × String)) :
    Except Problem Settings :=
  match name.elim (some []) (ofFile? t here) with
  | none => .error .unreadable
  | some file =>
    match ofSources? [file, ofEnvironment env] with
    | none => .error .illTyped
    | some settings => .ok settings

end Gradebook.Settings
