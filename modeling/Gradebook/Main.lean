import Gradebook.Clock.Wall
import Gradebook.Terminal.Program
import Gradebook.Text.Utf8
import Std.Time.DateTime.Timestamp

/-!
# The command line

The files that a run can use are read into a tree, the run works on the tree, and what it changed
there is written back, in a console after every line.
-/

namespace Gradebook.Terminal

def nameOfPlace (place : Path) : String :=
  "/" ++ "/".intercalate place

def readNode (place : Path) : IO (Option Node) := do
  try
    let bytes ← IO.FS.readBinFile (nameOfPlace place)
    return some <| .file <|
      match String.fromUTF8? bytes with
      | some s => .text s
      | none => .bytes bytes.toList
  catch
    | .inappropriateType .. => return some .directory
    | _ => return none

/-- The tree with what stands along a path from a place. -/
def readAlong (t : FileTree) (here : Path) : Path → IO FileTree
  | [] => return t
  | name :: rest => do
    let next := if name = ".." then here.dropLast else here ++ [name]
    match ← readNode next with
    | none => return t
    | some n => readAlong (if next = [] then t else t.put next n) next rest

def readPaths (t : FileTree) (paths : List Path) : IO FileTree :=
  paths.foldlM (readAlong · []) t

/-- Writes what has changed from one tree to another. -/
def writeChanges (before after : FileTree) : IO Unit := do
  for (place, node) in after.nodes.reverse do
    if before.node? place ≠ some node then
      match node with
      | .directory => IO.FS.createDirAll (nameOfPlace place)
      | .file (.text s) => IO.FS.writeFile (nameOfPlace place) s
      | .file (.bytes _) => pure ()
  for (place, node) in before.nodes do
    if node ≠ .directory && (after.node? place).isNone then
      IO.FS.removeFile (nameOfPlace place)

def readEnvironment : IO (List (String × String)) := do
  let bytes ← IO.FS.readBinFile "/proc/self/environ"
  let entries := (String.ofList (Text.lossyUtf8 bytes.toList)).splitOn "\x00"
  return entries.filterMap fun entry =>
    match entry.splitOn "=" with
    | name :: first :: rest => some (name, "=".intercalate (first :: rest))
    | _ => none

/-- The home directory of the first account with a number in a list of accounts. -/
def homeOfAccount (number accounts : String) : Option String :=
  let entries := (accounts.splitOn "\n").map (·.splitOn ":")
  let entry := entries.find? (·[2]? = some number)
  (entry.bind (·[5]?)).filter (· ≠ "")

/-- The home directory of the account that the program runs for. -/
def readAccountHome : IO (Option String) := do
  try
    let status ← IO.FS.readFile "/proc/self/status"
    let accounts ← IO.FS.readFile "/etc/passwd"
    let numbers := (status.splitOn "Uid:\t")[1]?
    return numbers.bind fun rest => homeOfAccount ((rest.splitOn "\t").headD "") accounts
  catch _ => return none

def readInstant : IO Time.Instant := do
  let nanos := (← Std.Time.Timestamp.now).toNanosecondsSinceUnixEpoch.val
  return (Time.Instant.of? (nanos / Time.nanosPerSecond) (nanos % Time.nanosPerSecond).toNat).getD
    .epoch

def readClock : IO WallClock := do
  let bytes ← IO.getRandomBytes 16
  return ⟨← readInstant, bytes.toList.foldl (fun n b => 256 * n + b.toNat) 0, 0⟩

/-- The paths that settings and preferences are read from. -/
def settingPaths (arguments : List String) (env : List (String × String))
    (home : Option Preferences.Home) (workingDirectory : Path) : List Path :=
  match readArguments arguments env with
  | .error _ => []
  | .ok (general, _) =>
    let settings := (settingsName general home).toList.flatMap fun name =>
      let path := Path.ofText workingDirectory name
      path :: Settings.Format.all.map fun f =>
        path.dropLast ++ [(path.getLast?.getD "") ++ f.ending]
    (home.map Preferences.filePath).toList ++ settings

/-- The paths that records are read from and written to. -/
def recordPaths (arguments : List String) (env : List (String × String))
    (home : Option Preferences.Home) (workingDirectory : Path) (t : FileTree) : List Path :=
  match readArguments arguments env with
  | .error _ => []
  | .ok (general, _) =>
    match contextOf general env home workingDirectory t with
    | .error _ => []
    | .ok ctx => Collection.all.flatMap fun c =>
        let store := FolderStore.mk t ctx.dataDirectory
        [store.filePath c, store.temporaryPath c]

def readSurroundings (arguments : List String) : IO (Surroundings WallClock) := do
  let env ← readEnvironment
  let accountHome ← readAccountHome
  let workingDirectory := Path.ofText [] (← IO.currentDir).toString
  let home := homeOf env accountHome workingDirectory
  let tree ← readPaths .empty [workingDirectory]
  let tree ← readPaths tree (settingPaths arguments env home workingDirectory)
  let tree ← readPaths tree (recordPaths arguments env home workingDirectory tree)
  let isTerminal ← (← IO.getStdout).isTty
  return ⟨arguments, env, accountHome, workingDirectory, isTerminal, tree, ← readClock⟩

def printItems (colour : Bool) (items : List Print) : IO Unit := do
  let out ← IO.getStdout
  out.putStr (Print.output colour items)
  out.flush
  (← IO.getStderr).putStr (Print.errorOutput colour items)

partial def consoleLoop (ctx : Context) (colour : Bool) (w : Desktop WallClock) : IO Unit := do
  printItems colour [.prompt]
  let input ← (← IO.getStdin).getLine
  if input.isEmpty then return
  let clock := { w.desk.clock with present := ← readInstant }
  match consoleStep ctx { w with desk := { w.desk with clock } } input with
  | none => return
  | some (items, after) =>
    printItems colour items
    writeChanges w.store.tree after.store.tree
    consoleLoop ctx colour after

end Gradebook.Terminal

open Gradebook.Terminal in
def main (arguments : List String) : IO UInt32 := do
  let surroundings ← readSurroundings arguments
  match start surroundings with
  | .finished r =>
    writeChanges surroundings.tree r.tree
    printItems r.colour r.items
    return r.exitCode.toUInt32
  | .console ctx colour items w =>
    writeChanges surroundings.tree w.store.tree
    printItems colour items
    consoleLoop ctx colour w
    return 0
