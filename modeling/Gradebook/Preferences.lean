import Gradebook.Files.Tree
import Gradebook.Toml.Layout
import Gradebook.Toml.Reader

/-!
# Preferences

What the user has chosen for later runs: texts under names, kept sorted in one table of a TOML
file.  A file that is not there holds none, and other entries of the file are passed over.
-/

namespace Gradebook

/-- Texts under names, in the order of the names. -/
structure Preferences where
  entries : List (String × String)
deriving DecidableEq

namespace Preferences

def empty : Preferences := ⟨[]⟩

def get? (p : Preferences) (name : String) : Option String :=
  p.entries.lookup name

/-- Sorted entries with a text under a name. -/
def insert (name text : String) : List (String × String) → List (String × String)
  | [] => [(name, text)]
  | e :: rest =>
    if name < e.1 then (name, text) :: e :: rest
    else if name = e.1 then (name, text) :: rest
    else e :: insert name text rest

def set (p : Preferences) (name text : String) : Preferences :=
  ⟨insert name text p.entries⟩

def erase (p : Preferences) (name : String) : Preferences :=
  ⟨p.entries.filter (·.1 ≠ name)⟩

def table : String := "values"

def layout (p : Preferences) : String :=
  Toml.writeTable table p.entries

/-- The preferences in a table, all of whose values must be texts. -/
def ofTable? (es : List (String × Toml.Value)) : Option Preferences :=
  es.foldlM (fun p (name, v) =>
    match v with
    | .string text => some (p.set name text)
    | _ => none) empty

def read? (text : String) : Option Preferences := do
  match (← Toml.read? text).lookup table with
  | none => some empty
  | some (.table es) => ofTable? es
  | some _ => none

/-- Why preferences cannot be used or kept. -/
inductive Problem where
  /-- There is no home directory to keep them in. -/
  | noHome
  | unreadable (path : String) (cause : FileProblem)
  | malformed
  | noDirectory (path : String) (cause : FileProblem)
  | unwritable (path : String) (cause : FileProblem)
  | unremovable (path : String) (cause : FileProblem)
deriving DecidableEq

def Problem.message : Problem → String
  | noHome => "Could not determine home directory"
  | unreadable path cause => s!"Failed to read {path}: {cause.message}"
  | malformed => "Failed to parse config file"
  | noDirectory path cause => s!"Failed to create {path}: {cause.message}"
  | unwritable path cause => s!"Failed to write {path}: {cause.message}"
  | unremovable path cause => s!"Failed to remove {path}: {cause.message}"

/-- A home directory: its name, and the directory from which the name leads on. -/
structure Home where
  name : String
  start : Path
deriving DecidableEq

def directoryName (home : Home) : String :=
  if home.name.endsWith "/" then home.name ++ ".tutor" else home.name ++ "/.tutor"

def fileName (home : Home) : String :=
  directoryName home ++ "/config.toml"

def directoryPath (home : Home) : Path :=
  Path.ofText home.start (directoryName home)

def filePath (home : Home) : Path :=
  Path.ofText home.start (fileName home)

def load (t : FileTree) : Option Home → Except Problem Preferences
  | none => .error .noHome
  | some home =>
    let path := filePath home
    if !t.contains path then .ok empty
    else
      match t.readText path with
      | .error cause => .error (.unreadable (fileName home) cause)
      | .ok text =>
        match read? text with
        | some p => .ok p
        | none => .error .malformed

/-- Writes preferences, which yields the tree that comes after, also where it fails. -/
def save (t : FileTree) (home : Option Home) (p : Preferences) : Option Problem × FileTree :=
  match home with
  | none => (some .noHome, t)
  | some home =>
    match t.reachDirectory (directoryPath home) with
    | (some cause, left) => (some (.noDirectory (directoryName home) cause), left)
    | (none, made) =>
      match made.writeText (filePath home) p.layout with
      | .error cause => (some (.unwritable (fileName home) cause), made)
      | .ok written => (none, written)

/-- The text kept under a name; preferences that cannot be used hold none. -/
def value? (t : FileTree) (home : Option Home) (name : String) : Option String :=
  (load t home).toOption.bind (·.get? name)

def store (t : FileTree) (home : Option Home) (name text : String) :
    Option Problem × FileTree :=
  match load t home with
  | .error problem => (some problem, t)
  | .ok p => save t home (p.set name text)

def clear (t : FileTree) (home : Option Home) (name : String) : Option Problem × FileTree :=
  match load t home with
  | .error problem => (some problem, t)
  | .ok p => if (p.get? name).isSome then save t home (p.erase name) else (none, t)

def reset (t : FileTree) : Option Home → Except Problem FileTree
  | none => .error .noHome
  | some home =>
    let path := filePath home
    if !t.contains path then .ok t
    else
      match t.removeFile path with
      | .error cause => .error (.unremovable (fileName home) cause)
      | .ok removed => .ok removed

end Preferences

end Gradebook
