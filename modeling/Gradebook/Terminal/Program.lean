import Gradebook.Settings.File
import Gradebook.Terminal.Arguments
import Gradebook.Terminal.Chosen
import Gradebook.Terminal.Console
import Gradebook.Terminal.Records
import Gradebook.Terminal.Students
import Gradebook.Time.ZoneText

/-!
# The program

A run of the program reads its arguments and settings, carries one request out, and ends with an
exit code: zero, one where the request failed, or two where the arguments cannot be understood.  A
console goes on until its input ends.
-/

namespace Gradebook.Terminal

/-- What surrounds a run. -/
structure Surroundings (κ : Type) where
  arguments : List String
  environment : List (String × String)
  /-- The home directory of the user's account, where the environment names none. -/
  accountHome : Option String
  workingDirectory : Path
  isTerminal : Bool
  tree : FileTree
  clock : κ

structure Result (κ : Type) where
  exitCode : Nat
  items : List Print
  colour : Bool
  tree : FileTree
  clock : κ

/-- A run that has ended, or a console that waits for lines. -/
inductive Progress (κ : Type) where
  | finished (r : Result κ)
  | console (ctx : Context) (colour : Bool) (items : List Print) (w : Desktop κ)

/-- The home directory that the environment names, or else that of the account. -/
def homeOf (env : List (String × String)) (accountHome : Option String) (workingDirectory : Path) :
    Option Preferences.Home :=
  let named := (env.lookup "HOME").filter (· ≠ "")
  (named.or accountHome).map (⟨·, workingDirectory⟩)

def zoneOf (env : List (String × String)) : Time.Zone :=
  (env.lookup "TZ").elim .utc Time.Zone.ofText

/-- Whether the output is coloured: by the arguments, by the environment, or else if it is a
terminal. -/
def colourOf (noColor : Bool) (env : List (String × String)) (isTerminal : Bool) : Bool :=
  if noColor then false
  else if (env.lookup "CLICOLOR_FORCE").any (· ≠ "0") then true
  else if (env.lookup "NO_COLOR").isSome then false
  else isTerminal && (env.lookup "CLICOLOR").all (· ≠ "0")

/-- The settings file: the one that is asked for, or else the one at home, if there is a home. -/
def settingsName (general : General) (home : Option Preferences.Home) : Option String :=
  general.settings.or (home.map (Preferences.directoryName · ++ "/tutor.toml"))

/-- What is said of settings that cannot be used; those of a file are told by its name. -/
def settingsFailure (name : Option String) (p : Settings.Problem) : String :=
  name.elim p.message (s!"Failed to load settings from {·}")

/-- Where and how a request is carried out, or why it cannot be. -/
def contextOf (general : General) (env : List (String × String)) (home : Option Preferences.Home)
    (workingDirectory : Path) (tree : FileTree) : Except String Context :=
  let name := settingsName general home
  match Settings.load tree workingDirectory name env with
  | .error p => .error (settingsFailure name p)
  | .ok settings =>
    let settings := if general.verbose then settings.withLevel "debug" else settings
    if !settings.logging.isAccepted then .error "Invalid log filter"
    else
      let directory := (general.dataDirectory.or
        (Preferences.value? tree home dataDirectoryName)).getD settings.dataDirectory
      .ok ⟨general.format, home, Path.ofText workingDirectory directory, settings.recentLimit,
        zoneOf env⟩

variable {κ : Type} [IdClock κ]

def Request.inWorkbook (ctx : Context) (w : Desktop κ) : Request → Reply κ
  | addStudent name select => Terminal.addStudent ctx w name select
  | listStudents query => Terminal.listStudents ctx w query
  | selectStudent key => Terminal.selectStudent ctx w key
  | showStudent key => Terminal.showStudent ctx w key
  | run key words => runWords ctx w key words
  | listHomework key all => Terminal.listHomework ctx w key all
  | completeHomework homework key => Terminal.completeHomework ctx w homework key
  | rankings => listRankings ctx w
  | recentStamps limit => listRecentStamps ctx w limit
  | resetStamps key force => Terminal.resetStamps w key force
  | recentGrades limit => listRecentGrades ctx w limit
  | wrongAnswers key today => listWrongAnswers ctx w key today
  | console _ | setPreference .. | getPreference _ | showPreferences | resetPreferences _ =>
    w.done []

def openConsole (ctx : Context) (tree : FileTree) (clock : κ) (key : Option String) :
    Except (Reply κ) (Desktop κ) :=
  match ctx.open tree clock with
  | .error (f, left) => .error ⟨[], left, clock, some f⟩
  | .ok w =>
    match selectFor w key with
    | .error f => .error (w.failed f)
    | .ok w => .ok w

def Request.perform (ctx : Context) (tree : FileTree) (clock : κ) (r : Request) : Reply κ :=
  match r with
  | setPreference name text => Terminal.setPreference ctx tree clock name text
  | getPreference name => Terminal.getPreference ctx tree clock name
  | showPreferences => Terminal.showPreferences ctx tree clock
  | resetPreferences force => Terminal.resetPreferences ctx tree clock force
  | r =>
    match ctx.open tree clock with
    | .error (f, left) => ⟨[], left, clock, some f⟩
    | .ok w => r.inWorkbook ctx w

def Result.ofReply (colour : Bool) (r : Reply κ) : Result κ :=
  match r.failure with
  | none => ⟨0, r.items, colour, r.tree, r.clock⟩
  | some f => ⟨1, r.items ++ [.error f.message], colour, r.tree, r.clock⟩

def usageLines : List Print :=
  [.line "Usage: tutor [OPTIONS] <student|run|console|homework|stamps|logs|config> [ARGUMENTS]",
    .line "Options: -o <table|json|yaml> --data-dir <DIR> --config <FILE> --no-color -v -h -V"]

def versionLine (path : List String) : Print :=
  .line ("-".intercalate ("tutor" :: path) ++ " 0.1.0")

/-- Runs the program up to its end or to the first line of a console. -/
def start (s : Surroundings κ) : Progress κ :=
  let finish (code : Nat) (items : List Print) : Progress κ :=
    .finished ⟨code, items, false, s.tree, s.clock⟩
  match readArguments s.arguments s.environment with
  | .error .help => finish 0 usageLines
  | .error (.version path) => finish 0 [versionLine path]
  | .error .usage => finish 2 [.failure "the arguments cannot be understood"]
  | .ok (general, request) =>
    let colour := colourOf general.noColor s.environment s.isTerminal
    let home := homeOf s.environment s.accountHome s.workingDirectory
    match contextOf general s.environment home s.workingDirectory s.tree with
    | .error message => finish 1 [.failure message]
    | .ok ctx =>
      match request with
      | .console key =>
        match openConsole ctx s.tree s.clock key with
        | .error reply => .finished (.ofReply colour reply)
        | .ok w => .console ctx colour [greeting w] w
      | request => .finished (.ofReply colour (request.perform ctx s.tree s.clock))

/-- Runs the program to its end on an input. -/
def program (s : Surroundings κ) (input : String) : Result κ :=
  match start s with
  | .finished r => r
  | .console ctx colour items w =>
    let (more, last) := consoleRun ctx w (inputLines input)
    ⟨0, items ++ more, colour, last.store.tree, last.desk.clock⟩

end Gradebook.Terminal
