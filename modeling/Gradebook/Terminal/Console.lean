import Gradebook.Terminal.Session

/-!
# Typed lines

A line is carried out by a run of its own, or in a console, which asks for one line after another
until a line says to leave.  Both may be given a student, who is then selected for that time only.
-/

namespace Gradebook.Terminal

variable {κ : Type} [IdClock κ]

def toneName : Tone → String
  | .success => "success"
  | .wrongAnswer => "wrong_answer"
  | .warning => "warning"
  | .ignored => "ignored"
  | .rejected => "rejected"

def reportJson (line : String) (o : Outcome) : Json.Value :=
  .object [("command", .string line), ("message", .string o.message),
    ("tone", .string (toneName o.tone)),
    ("saved", .array (o.touched.map fun c => .string c.name))]

def report (format : Format) (line : String) (o : Outcome) : Print :=
  match format with
  | .table => .ofOutcome o
  | format => format.show (reportJson line o)

/-- Selects the student that a key means, if there is one. -/
def selectFor (w : Desktop κ) (key : Option String) : Except Failure (Desktop κ) :=
  match key with
  | none => .ok w
  | some key =>
    match w.target (some key) with
    | .error f => .error f
    | .ok id =>
      match w.select id with
      | (.error f, _) => .error (.fault f)
      | (.ok _, w) => .ok w

/-- The remark on a student, if there is one and the remark is true. -/
def remarkOn (s : Option Student) (holds : Student → Bool) (text : Student → String) :
    List Print :=
  match s with
  | some s => if holds s then [.success (text s)] else []
  | none => []

def milestoneItems (s : Option Student) : List Print :=
  remarkOn s (·.hasMilestone) fun s => s!"{s.name} has {s.stamps} stamps!"

/-- Carries the line of the given words out. -/
def runWords (ctx : Context) (w : Desktop κ) (key : Option String) (words : List String) :
    Reply κ :=
  match selectFor w key with
  | .error f => w.failed f
  | .ok w =>
    let line := " ".intercalate words
    match w.runCommand line with
    | (o, w) =>
      if o.isRejected then Desktop.failed w (.rejected o.message)
      else Desktop.done w (report ctx.format line o :: milestoneItems w.currentStudent)

def greeting (w : Desktop κ) : Print :=
  match w.currentStudent with
  | some s => .info s!"Recording for {s.name} ({s.stamps} stamps). Type \x60exit\x60 to leave."
  | none => .warning "No student selected; commands will be rejected."

def atMilestone (w : Desktop κ) : Bool :=
  w.currentStudent.any (·.hasMilestone)

/-- The item that a student who has just reached the milestone is given. -/
def reachedItems (before after : Desktop κ) : List Print :=
  remarkOn after.currentStudent (fun s => s.hasMilestone && !atMilestone before) fun s =>
    s!"{s.name} reached {Student.milestoneStamps} stamps!"

def leavingLines : List String := ["exit", "quit"]

/-- What a line does in a console; none if it leaves the console. -/
def consoleStep (ctx : Context) (w : Desktop κ) (input : String) :
    Option (List Print × Desktop κ) :=
  let line := Text.trim input
  if line = "" then some ([], w)
  else if leavingLines.contains line then none
  else
    let (o, after) := w.runCommand line
    some (report ctx.format line o :: reachedItems w after, after)

def consoleRun (ctx : Context) (w : Desktop κ) : List String → List Print × Desktop κ
  | [] => ([.prompt], w)
  | input :: rest =>
    match consoleStep ctx w input with
    | none => ([.prompt], w)
    | some (items, after) =>
      let (more, last) := consoleRun ctx after rest
      (.prompt :: items ++ more, last)

def inputLines (input : String) : List String :=
  let lines := input.splitOn "\n"
  if lines.getLast? = some "" then lines.dropLast else lines

end Gradebook.Terminal
