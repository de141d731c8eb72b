import Gradebook.Terminal.Flag

/-!
# Reading command lines

The arguments are read from left to right.  An argument is a subcommand, a flag under its name or
several under their letters, the value that a flag waits for, or an operand; after two dashes all
are operands.  A flag is given at most once on each level of subcommands, and of a flag given on
several the innermost counts.  Where the operands are the words of a line, the first argument that
is not made of known flags begins the line, which holds all that follows.
-/

namespace Gradebook.Terminal

/-- Why a command line is not read to an end. -/
inductive Stop where
  | usage
  | help
  /-- The version of a subcommand is asked for. -/
  | version (path : List String)
deriving DecidableEq, Repr

def Stop.within (path : List String) : Stop → Stop
  | version _ => version path
  | stop => stop

inductive Argument where
  | dashes
  | flag (f : Flag) (value : Option String)
  | letters (cs : List Char)
  | unknownFlag
  | plain
deriving DecidableEq, Repr

def Shape.classify (s : Shape) (arg : String) : Argument :=
  let stranger : Argument := if s.isLine then .plain else .unknownFlag
  match arg.toList with
  | ['-', '-'] => .dashes
  | '-' :: '-' :: rest =>
    let name := String.ofList (rest.takeWhile (· ≠ '='))
    let value := match rest.dropWhile (· ≠ '=') with
      | [] => none
      | _ :: v => some (String.ofList v)
    match s.flagNamed? name with
    | some f => .flag f value
    | none => stranger
  | '-' :: c :: rest =>
    if s.isLine && (c :: rest).any fun d => (s.flagLettered? d).isNone then .plain
    else .letters (c :: rest)
  | _ => .plain

/-- What has been read on a level. -/
structure Level where
  given : List (Flag × String)
  operands : List String
  /-- The flag read last, if it takes a value, with the value that has followed. -/
  pending : Option (Flag × Option String)
deriving DecidableEq, Repr

namespace Level

def empty : Level := ⟨[], [], none⟩

def has (l : Level) (f : Flag) : Bool :=
  (l.given.lookup f).isSome

def isWaiting (l : Level) : Bool :=
  l.pending.any fun p => p.2.isNone

def give (l : Level) (f : Flag) (value : String) : Except Stop Level :=
  if l.has f || !f.accepts value then .error .usage
  else .ok { l with given := l.given ++ [(f, value)], pending := none }

def settle (l : Level) : Except Stop Level :=
  match l.pending with
  | none => .ok l
  | some (_, none) => .error .usage
  | some (f, some value) => l.give f value

def raise (l : Level) (f : Flag) : Except Stop Level :=
  match l.settle with
  | .error stop => .error stop
  | .ok l =>
    match f with
    | .help => .error .help
    | .version => .error (.version [])
    | f => l.give f ""

def attach (l : Level) (f : Flag) (value : String) : Except Stop Level :=
  match l.settle with
  | .error stop => .error stop
  | .ok l => l.give f value

/-- Waits for the value of a flag. -/
def await (l : Level) (f : Flag) : Except Stop Level :=
  match l.settle with
  | .error stop => .error stop
  | .ok l => .ok { l with pending := some (f, none) }

def takeFlag (l : Level) (f : Flag) (value : Option String) : Except Stop Level :=
  match f.takesValue, value with
  | true, some v => l.attach f v
  | true, none => l.await f
  | false, some _ => .error .usage
  | false, none => l.raise f

/-- Takes flags under their letters; what follows the letter of a flag with a value is the value,
after an equals sign that may be absent. -/
def takeLetters (s : Shape) (l : Level) : List Char → Except Stop Level
  | [] => .ok l
  | c :: rest =>
    match s.flagLettered? c with
    | none => .error .usage
    | some f =>
      if f.takesValue then
        match rest with
        | [] => l.await f
        | '=' :: value => l.attach f (String.ofList value)
        | value => l.attach f (String.ofList value)
      else
        match l.raise f with
        | .error stop => .error stop
        | .ok l => takeLetters s l rest

/-- Takes an argument that is the value waited for or else an operand; `operandsOnly` tells that
two dashes have been read. -/
def takePlain (s : Shape) (operandsOnly : Bool) (l : Level) (arg : String) : Except Stop Level :=
  match l.pending with
  | some (f, none) =>
    if operandsOnly then .error .usage else .ok { l with pending := some (f, some arg) }
  | _ =>
    match l.settle with
    | .error stop => .error stop
    | .ok l =>
      if s.hasRoom l.operands.length then .ok { l with operands := l.operands ++ [arg] }
      else .error .usage

def isInLine (s : Shape) (l : Level) : Bool :=
  s.isLine && !l.operands.isEmpty

/-- Reads the arguments of a level, up to a subcommand, which is given with what follows it. -/
def read (s : Shape) (operandsOnly : Bool) (l : Level) :
    List String → Except Stop (Level × Option (String × List String))
  | [] => .ok (l, none)
  | arg :: rest =>
    if operandsOnly || l.isInLine s then
      match l.takePlain s true arg with
      | .error stop => .error stop
      | .ok l => read s operandsOnly l rest
    else if !l.isWaiting && s.names.contains arg then .ok (l, some (arg, rest))
    else
      let next : Except Stop Level := match s.classify arg with
        | .dashes => .ok l
        | .flag f value => l.takeFlag f value
        | .letters cs => l.takeLetters s cs
        | .unknownFlag => .error .usage
        | .plain => l.takePlain s false arg
      match next with
      | .error stop => .error stop
      | .ok l => read s (arg = "--") l rest

end Level

def maxLevels : Nat := 3

def isSubcommand (path : List String) : Bool :=
  (Shape.ofPath? path).isSome ||
    (path.getLast? = some Shape.helpName &&
      match Shape.ofPath? path.dropLast with
      | some (.group _) => true
      | _ => false)

/-- Reads the levels of a command line from the one that a path of subcommands leads to; they come
from the innermost one. -/
def readLevels : Nat → List String → List String → Except Stop (List String × List Level)
  | 0, _, _ => .error .usage
  | n + 1, path, args =>
    match Shape.ofPath? path with
    | none => .error .usage
    | some shape =>
      match Level.read shape false .empty args with
      | .error stop => .error (stop.within path)
      | .ok (level, next) =>
        let below : Except Stop (List String × List Level) := match shape, next with
          | .group _, none => .error .usage
          | _, none => .ok (path, [])
          | _, some (name, rest) =>
            if name = Shape.helpName then
              .error (if isSubcommand (path ++ rest) then .help else .usage)
            else readLevels n (path ++ [name]) rest
        match below, level.settle with
        | .error stop, _ => .error stop
        | _, .error stop => .error stop
        | .ok (path, levels), .ok level => .ok (path, levels ++ [level])

def Request.ofLevel? (path : List String) (l : Level) : Option Request :=
  let student := l.given.lookup .student
  let limit := (l.given.lookup .limit).bind Flag.limitOf?
  match path, l.operands with
  | ["student", "add"], [name] => some (.addStudent name (l.has .select))
  | ["student", "list"], [] => some (.listStudents (l.given.lookup .query))
  | ["student", "select"], [key] => some (.selectStudent key)
  | ["student", "show"], operands => some (.showStudent operands.head?)
  | ["run"], word :: words => some (.run student (word :: words))
  | ["console"], [] => some (.console student)
  | ["homework", "list"], [] => some (.listHomework student (l.has .all))
  | ["homework", "complete"], [homework] => some (.completeHomework homework student)
  | ["stamps", "rankings"], [] => some .rankings
  | ["stamps", "recent"], [] => some (.recentStamps limit)
  | ["stamps", "reset"], operands => some (.resetStamps operands.head? (l.has .force))
  | ["logs", "recent"], [] => some (.recentGrades limit)
  | ["logs", "wrong"], [] => some (.wrongAnswers student (l.has .today))
  | ["config", "set"], [name, text] => some (.setPreference name text)
  | ["config", "get"], [name] => some (.getPreference name)
  | ["config", "show"], [] => some .showPreferences
  | ["config", "reset"], [] => some (.resetPreferences (l.has .force))
  | _, _ => none

def Flag.variable? : Flag → Option String
  | dataDirectory => some "TUTOR_DATA_DIR"
  | settings => some "TUTOR_CONFIG"
  | _ => none

/-- The value of a flag on the innermost level that has it, or else of its variable.  A variable
that is no value for the flag is refused where a level does not have the flag. -/
def generalValue (levels : List Level) (env : List (String × String)) (f : Flag) :
    Except Stop (Option String) :=
  let value := levels.findSome? (·.given.lookup f)
  match f.variable?.bind fun name => env.lookup name with
  | none => .ok value
  | some fallback =>
    if !f.accepts fallback && !levels.all (·.has f) then .error .usage
    else .ok (value.or (some fallback))

def General.ofLevels (levels : List Level) (env : List (String × String)) :
    Except Stop General := do
  let format ← generalValue levels env .format
  let dataDirectory ← generalValue levels env .dataDirectory
  let settings ← generalValue levels env .settings
  .ok ⟨(format.bind Format.ofName?).getD .table, dataDirectory, settings,
    levels.any (·.has .noColor), levels.any (·.has .verbose)⟩

def readArguments (args : List String) (env : List (String × String)) :
    Except Stop (General × Request) :=
  match readLevels maxLevels [] args with
  | .error stop => .error stop
  | .ok (path, levels) =>
    match General.ofLevels levels env, levels.head?.bind (Request.ofLevel? path) with
    | .error stop, _ => .error stop
    | _, none => .error .usage
    | .ok general, some request => .ok (general, request)

end Gradebook.Terminal
