import Gradebook.Clock
import Gradebook.Preferences
import Gradebook.Store.Folder
import Gradebook.Terminal.Print
import Gradebook.Time.Zone
import Gradebook.Workbook

/-!
# Sessions

Where a request is carried out, and what it leaves.  A session opens the workbook in the data
directory and selects the student of the preferences; a student who is no longer on the roster is
taken out of them.
-/

namespace Gradebook.Terminal

/-- Where and how requests are carried out. -/
structure Context where
  format : Format
  home : Option Preferences.Home
  dataDirectory : Path
  recentLimit : Nat
  zone : Time.Zone

inductive Failure where
  | fault (f : Fault)
  | preferences (p : Preferences.Problem)
  | unknownStudent (key : String)
  | noStudentSelected
  /-- A typed line was rejected. -/
  | rejected (message : String)
deriving DecidableEq

def Failure.message : Failure → String
  | fault f => ": ".intercalate (f.text :: f.causes)
  | preferences p => p.message
  | unknownStudent key => s!"Student not found: {key}"
  | noStudentSelected => "No student selected. Use \x60tutor student select <name>\x60 first"
  | rejected message => message

/-- What a request leaves: what it prints, the files, the clock, and why it failed, if it did. -/
structure Reply (κ : Type) where
  items : List Print
  tree : FileTree
  clock : κ
  failure : Option Failure

abbrev Desktop (κ : Type) := Workbook FolderStore κ

section

variable {κ : Type}

def Desktop.tree (w : Desktop κ) : FileTree := w.store.tree

def Desktop.withTree (w : Desktop κ) (tree : FileTree) : Desktop κ :=
  { w with store := { w.store with tree } }

def Desktop.done (w : Desktop κ) (items : List Print) : Reply κ :=
  ⟨items, w.tree, w.desk.clock, none⟩

def Desktop.failed (w : Desktop κ) (f : Failure) : Reply κ :=
  ⟨[], w.tree, w.desk.clock, some f⟩

def selectionName : String := "current-student"

def dataDirectoryName : String := "data-dir"

variable [IdClock κ]

/-- Opens the workbook of a context with the student of the preferences selected; where that fails,
the tree that it leaves comes with the reason. -/
def Context.open (ctx : Context) (tree : FileTree) (clock : κ) :
    Except (Failure × FileTree) (Desktop κ) :=
  match Workbook.open (FolderStore.mk tree ctx.dataDirectory) clock .empty with
  | .error (f, _) => .error (.fault f, tree)
  | .ok w =>
    match Preferences.value? tree ctx.home selectionName with
    | none => .ok w
    | some id =>
      match w.select id with
      | (.ok _, w) => .ok w
      | (.error _, w) =>
        match Preferences.clear tree ctx.home selectionName with
        | (some p, left) => .error (.preferences p, left)
        | (none, tree) => .ok (Desktop.withTree w tree)

/-- The student that a key means, or without a key the selected one. -/
def Desktop.target (w : Desktop κ) (key : Option String) : Except Failure StudentId :=
  match key with
  | some key =>
    match w.resolve key with
    | some s => .ok s.id
    | none => .error (.unknownStudent key)
  | none =>
    match w.current with
    | some id => .ok id
    | none => .error .noStudentSelected

def Desktop.targetStudent (w : Desktop κ) (key : Option String) : Except Failure Student :=
  match w.target key with
  | .error f => .error f
  | .ok id =>
    match w.roster.get? id with
    | some s => .ok s
    | none => .error (.unknownStudent id)

end

end Gradebook.Terminal
