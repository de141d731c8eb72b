import Gradebook.Files.Problem

/-!
# A tree of files

Plain files and directories without links, under one root.  A path is a list of names from the
root on, in which `..` stands for the directory above the one reached and `.` for that directory;
every name but the last must lead to a directory.  An operation that fails leaves the tree as it is,
but for directories that were made on the way to one that cannot be.
-/

namespace Gradebook

/-- What a file holds: a text, or bytes that are no text. -/
inductive Content where
  | text (s : String)
  | bytes (b : List UInt8)
deriving DecidableEq

inductive Node where
  | file (c : Content)
  | directory
deriving DecidableEq

/-- Names from the root on. -/
abbrev Path := List String

/-- The path that a text names from a directory: the names between its slashes, from the root on
if it begins with a slash.  A dot counts only at the end, where it asks for a directory. -/
def Path.ofText (here : Path) (text : String) : Path :=
  let names := (text.splitOn "/").filter (· ≠ "")
  let plain := names.filter (· ≠ ".")
  let path := if names.getLast? = some "." then plain ++ ["."] else plain
  if text.startsWith "/" then path else here ++ path

/-- Files and directories by their place below the root. -/
structure FileTree where
  nodes : List (Path × Node)

namespace FileTree

def empty : FileTree := ⟨[]⟩

/-- What stands at a place; the root is a directory. -/
def node? (t : FileTree) (place : Path) : Option Node :=
  if place = [] then some .directory else t.nodes.lookup place

def put (t : FileTree) (place : Path) (n : Node) : FileTree :=
  ⟨(place, n) :: t.nodes.filter (·.1 ≠ place)⟩

def erase (t : FileTree) (place : Path) : FileTree :=
  ⟨t.nodes.filter (·.1 ≠ place)⟩

def maxNameBytes : Nat := 255

/-- The place that a path leads to from a place on the way. -/
def walk (t : FileTree) (here : Path) : Path → Except FileProblem Path
  | [] => .ok here
  | name :: rest =>
    match t.node? here with
    | none => .error .missing
    | some (.file _) => .error .notADirectory
    | some .directory =>
      if name = "." then t.walk here rest
      else if name = ".." then t.walk here.dropLast rest
      else if maxNameBytes < name.utf8ByteSize then .error .nameTooLong
      else t.walk (here ++ [name]) rest

/-- The place that a path leads to; its last name may be new. -/
def locate (t : FileTree) (path : Path) : Except FileProblem Path :=
  if path.any (·.toList.contains '\x00') then .error .nullByte else t.walk [] path

def find (t : FileTree) (path : Path) : Except FileProblem Node :=
  match t.locate path with
  | .error p => .error p
  | .ok place =>
    match t.node? place with
    | some n => .ok n
    | none => .error .missing

def contains (t : FileTree) (path : Path) : Bool :=
  (t.find path).toOption.isSome

def isDirectory (t : FileTree) (path : Path) : Bool :=
  match t.find path with
  | .ok .directory => true
  | _ => false

def isFile (t : FileTree) (path : Path) : Bool :=
  match t.find path with
  | .ok (.file _) => true
  | _ => false

def names (t : FileTree) (path : Path) : List String :=
  match t.locate path with
  | .error _ => []
  | .ok place =>
    let inside := t.nodes.filterMap fun (p, _) => if p.dropLast = place then p.getLast? else none
    inside.mergeSort fun a b => a ≤ b

def readText (t : FileTree) (path : Path) : Except FileProblem String :=
  match t.find path with
  | .error p => .error p
  | .ok .directory => .error .isADirectory
  | .ok (.file (.bytes _)) => .error .notText
  | .ok (.file (.text s)) => .ok s

/-- Writes a text as the whole content of a file, which may be new. -/
def writeText (t : FileTree) (path : Path) (s : String) : Except FileProblem FileTree :=
  match t.locate path with
  | .error p => .error p
  | .ok place =>
    match t.node? place with
    | some .directory => .error .isADirectory
    | _ => .ok (t.put place (.file (.text s)))

def makeDirectory (t : FileTree) (path : Path) : Except FileProblem FileTree :=
  match t.locate path with
  | .error p => .error p
  | .ok place =>
    match t.node? place with
    | some _ => .error .alreadyThere
    | none => .ok (t.put place .directory)

/-- The names above the directory that names lead to, all given from the last. -/
def namesAbove : List String → List String
  | [] => []
  -- a dot at the end names the same directory as the name in front of it
  | name :: above => if name = "." then above.drop 1 else above

/-- The tree after making a directory and those above it that are missing, with the problem that
ended this, if one did.  What was made before the problem stays; the names are given from the
last. -/
def makeDirectoriesUp (t : FileTree) : List String → Option FileProblem × FileTree
  | [] => (none, t)
  | name :: above =>
    let path := (name :: above).reverse
    match t.makeDirectory path with
    | .ok made => (none, made)
    | .error .missing =>
      match t.makeDirectoriesUp (namesAbove (name :: above)) with
      | (some p, left) => (some p, left)
      | (none, made) =>
        match made.makeDirectory path with
        | .ok done => (none, done)
        -- making those above may have made the directory itself, where the path steps up
        | .error p => if made.isDirectory path then (none, made) else (some p, made)
    | .error p => if t.isDirectory path then (none, t) else (some p, t)
termination_by names => names.length
decreasing_by
  simp only [namesAbove]
  split <;> simp only [List.length_drop, List.length_cons] <;> omega

/-- The tree after the directories of a path have been made as far as that goes. -/
def reachDirectory (t : FileTree) (path : Path) : Option FileProblem × FileTree :=
  t.makeDirectoriesUp path.reverse

def makeDirectories (t : FileTree) (path : Path) : Except FileProblem FileTree :=
  match t.reachDirectory path with
  | (none, made) => .ok made
  | (some p, _) => .error p

/-- Moves a file to a path, in place of a file that may be there. -/
def moveFile (t : FileTree) (source target : Path) : Except FileProblem FileTree :=
  match t.locate source, t.locate target with
  | .error p, _ => .error p
  | _, .error p => .error p
  | .ok old, .ok new =>
    match t.node? old, t.node? new with
    | none, _ => .error .missing
    | some .directory, _ => .error .isADirectory
    | _, some .directory => .error .isADirectory
    | some n, _ => .ok ((t.erase old).put new n)

def removeFile (t : FileTree) (path : Path) : Except FileProblem FileTree :=
  match t.locate path with
  | .error p => .error p
  | .ok place =>
    match t.node? place with
    | none => .error .missing
    | some .directory => .error .isADirectory
    | some (.file _) => .ok (t.erase place)

theorem node?_put (t : FileTree) {place : Path} (n : Node) (other : Path) (h : place ≠ []) :
    (t.put place n).node? other = if other = place then some n else t.node? other := by
  by_cases ho : other = place
  · subst ho
    simp [node?, put, h]
  · have hn : (other == place) = false := by simpa using ho
    have key : ∀ l : List (Path × Node),
        (l.filter (·.1 ≠ place)).lookup other = l.lookup other := by
      intro l
      induction l with
      | nil => rfl
      | cons a l ih =>
        obtain ⟨p, m⟩ := a
        by_cases ha : p = place
        · subst ha
          simpa [List.lookup_cons, hn] using ih
        · simp only [List.filter_cons, ne_eq, ha, not_false_eq_true, decide_true, if_true]
          rw [List.lookup_cons, List.lookup_cons, ih]
    simp only [node?, put, List.lookup_cons, hn, if_neg ho, key]

end FileTree

end Gradebook
