import Gradebook.Collection
import Gradebook.Files.Tree
import Gradebook.Json.Layout
import Gradebook.Json.Reader
import Gradebook.Text.Blank

/-!
# Stores in a directory

Each collection is a file of JSON text in one directory.  A save writes a temporary file beside it
and then moves that file into its place, so that a save that fails leaves the collection's file as
it was.
-/

namespace Gradebook

open Json (Value)

/-- A directory of collection files in a tree of files. -/
structure FolderStore where
  tree : FileTree
  directory : Path

namespace FolderStore

def fileName (c : Collection) : String :=
  c.name ++ ".json"

/-- The name of the file that a save writes first. -/
def temporaryName (c : Collection) : String :=
  c.name ++ ".json.tmp"

def filePath (s : FolderStore) (c : Collection) : Path :=
  s.directory ++ [fileName c]

def temporaryPath (s : FolderStore) (c : Collection) : Path :=
  s.directory ++ [temporaryName c]

/-- The records that the text of a collection's file holds; blank text holds none. -/
def decoding (c : Collection) (text : String) : Fallible (List c.Record) :=
  if Text.isAllBlank text then pure []
  else
    match (Value.read? text).bind c.ofJson? with
    | some records => pure records
    | none => Fault.raise (Fault.undecodable s!"{fileName c} does not hold the expected records")

def decode (c : Collection) (text : String) : Except Fault (List c.Record) :=
  (decoding c text).run.value

def encode (c : Collection) (records : List c.Record) : String :=
  (c.toJson records).pretty

/-- The tree after the three steps of a save: the directory, the temporary file, the move. -/
def writing (s : FolderStore) (c : Collection) (text : String) :
    Counted (Option Fault × FileTree) :=
  match s.tree.reachDirectory s.directory with
  | (some p, left) => (some ·, left) <$> Fault.ofFileProblem p
  | (none, made) =>
    match made.writeText (s.temporaryPath c) text with
    | .error p => (some ·, made) <$> Fault.ofFileProblem p
    | .ok written =>
      match written.moveFile (s.temporaryPath c) (s.filePath c) with
      -- the temporary file stays behind
      | .error p => (some ·, written) <$> Fault.underCode .storageError p.message
      | .ok moved => pure (none, moved)

def write (s : FolderStore) (c : Collection) (text : String) : Option Fault × FileTree :=
  (s.writing c text).value

instance : CollectionStore FolderStore where
  loading s c :=
    if s.tree.contains (s.filePath c) then
      match s.tree.readText (s.filePath c) with
      | .error p => Fault.raise (Fault.ofFileProblem p)
      | .ok text => decoding c text
    else pure []
  saving s c records :=
    (fun (fault, tree) => (fault, { s with tree })) <$> s.writing c (encode c records)

end FolderStore

end Gradebook
