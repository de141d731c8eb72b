import Gradebook.Clock
import Gradebook.Ledger.Basic
import Gradebook.Tally

/-!
# Carrying commands out

A command works on the desk: the ledgers, the clock that names and dates new records, and the
counters.  A typed line is rejected if no student is selected, if the student is not on the
roster, or if the line is no command, and then changes nothing but the counters.
-/

namespace Gradebook

inductive Tone where
  | success
  | wrongAnswer
  | warning
  | ignored
  | rejected
deriving DecidableEq, Repr

/-- What a line led to: a message, how it is meant, and the collections it changed. -/
structure Outcome where
  message : String
  tone : Tone
  touched : List Collection
deriving DecidableEq

namespace Outcome

def rejection (message : String) : Outcome :=
  ⟨message, .rejected, []⟩

def isRejected (o : Outcome) : Bool :=
  o.tone = .rejected

def mutated (o : Outcome) : Bool :=
  !o.touched.isEmpty

end Outcome

/-- Adds collections that are not yet listed. -/
def touch (listed more : List Collection) : List Collection :=
  more.foldl (fun l c => if c ∈ l then l else l ++ [c]) listed

namespace Action

def touches : Action → List Collection
  | recordGrade .. => [.students, .grades]
  | assignHomework .. => [.students]
  | adjustStamps _ => [.students]
  | recordReward .. => [.rewards]

end Action

namespace Command

def message : Command → String
  | recordGrade unit question .incorrect => s!"Wrong answer recorded: {unit} {question}"
  | recordGrade unit question status => s!"Recorded: {unit} {question} {status.symbol}"
  | assignHomework unit range => s!"Homework assigned: {unit} {range}"
  | addStamps n => s!"Added {n} stamps"
  | removeStamps n => s!"Removed {n} stamps"
  | penalty n => s!"Penalty: {penaltyRange n} assigned"
  | ignored => "Stamp command ignored: expected +N or -N"

def tone : Command → Tone
  | recordGrade _ _ .incorrect => .wrongAnswer
  | penalty _ => .warning
  | ignored => .ignored
  | _ => .success

/-- The collections that a command changes, in the order of the first change. -/
def touches (c : Command) : List Collection :=
  touch [] (c.actions.flatMap Action.touches)

def outcome (c : Command) : Outcome :=
  ⟨c.message, c.tone, c.touches⟩

end Command

/-- What a command works on. -/
structure Desk (κ : Type) where
  ledgers : Ledgers
  clock : κ
  tally : Tally

namespace Desk

variable {κ : Type} [IdClock κ]

def withTally (d : Desk κ) (tally : Tally) : Desk κ :=
  { d with tally }

def count (d : Desk κ) (c : Counter) : Desk κ :=
  d.withTally (d.tally.count c)

def countFaults (d : Desk κ) (codes : List FaultCode) : Desk κ :=
  d.withTally (d.tally.countFaults codes)

/-- An identity for a family of records and an instant, and the desk after drawing them. -/
def stamp (d : Desk κ) (family : String) : String × Time.Instant × Desk κ :=
  let (id, clock) := IdClock.newId d.clock family
  let (time, clock) := IdClock.now clock
  (id, time, { d with clock })

/-- Records a graded question in the student's log and in the log of all students. -/
def recordGrade (d : Desk κ) (student : StudentId) (unit question : String) (status : Status) :
    LogEntry × Desk κ :=
  let (id, time, d) := d.stamp "log"
  let e : LogEntry := ⟨id, student, unit, question, status, time⟩
  (e, { d with ledgers := { d.ledgers with
    roster := d.ledgers.roster.appendLog student e, grades := d.ledgers.grades ++ [e] } })

def apply (d : Desk κ) (student : StudentId) : Action → Desk κ
  | .recordGrade unit question status => (d.recordGrade student unit question status).2
  | .assignHomework unit range =>
    let (id, time, d) := d.stamp "homework"
    { d with ledgers := { d.ledgers with
      roster := d.ledgers.roster.appendHomework student ⟨id, unit, range, time, false⟩ } }
  | .adjustStamps delta =>
    { d with ledgers := { d.ledgers with
      roster := d.ledgers.roster.adjustStamps student delta } }
  | .recordReward kind value =>
    let (id, time, d) := d.stamp kind.name
    { d with ledgers := { d.ledgers with
      rewards := d.ledgers.rewards ++ [⟨id, student, kind, value, some kind.name, time⟩] } }

def target (d : Desk κ) : Option StudentId → Except Refusal StudentId
  | none => .error .noStudentSelected
  | some id => if d.ledgers.roster.has id then .ok id else .error (.studentNotFound id)

def execute (d : Desk κ) (student : Option StudentId) (c : Command) :
    Except Refusal (Outcome × Desk κ) :=
  match d.target student with
  | .error r => .error r
  | .ok id => .ok (c.outcome, (c.actions.foldl (·.apply id) d).count (.applied c.kind))

/-- What a typed line asks for, if it can be carried out for the student, or the text that
rejects it. -/
def accept (d : Desk κ) (student : Option StudentId) (input : String) : Except String Command :=
  match d.target student with
  | .error r => .error r.message
  | .ok _ => (Command.parse input).mapError CommandError.message

/-- Runs a typed line for a student. -/
def run (d : Desk κ) (student : Option StudentId) (input : String) : Outcome × Desk κ :=
  match d.accept student input with
  | .error message => (.rejection message, d.count .rejected)
  | .ok c =>
    match d.execute student c with
    -- the line was accepted, so its student is there
    | .error r => (.rejection r.message, d.count .rejected)
    | .ok result => result

end Desk

end Gradebook
