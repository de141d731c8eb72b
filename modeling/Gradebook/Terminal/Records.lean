import Gradebook.Ledger.Views
import Gradebook.Terminal.Session
import Gradebook.Time.Zone

/-!
# Requests about records

Homework, stamps and graded questions: their lists, completing homework, and resetting a balance of
stamps.
-/

namespace Gradebook.Terminal

variable {κ : Type} [IdClock κ]

def homeworkHeadings : List String := ["ID", "Unit", "Range", "Assigned", "Done"]

def homeworkRow (zone : Time.Zone) (h : Homework) : List (String × Json.Value) :=
  [("id", .string h.id), ("unit", .string h.unit), ("range", .string h.range),
    ("assigned_at", .string (zone.writeMinute h.assignedAt)), ("completed", .bool h.completed)]

def homeworkCells (zone : Time.Zone) (h : Homework) : List String :=
  [h.id, h.unit, h.range, zone.writeMinute h.assignedAt, toString h.completed]

def listHomework (ctx : Context) (w : Desktop κ) (key : Option String) (all : Bool) : Reply κ :=
  match w.targetStudent key with
  | .error f => w.failed f
  | .ok s =>
    let shown := if all then s.homework else s.incompleteHomework
    w.done <|
      match ctx.format with
      | .table => [.tableOf homeworkHeadings (shown.map (homeworkCells ctx.zone))]
      | format => [format.show (.array (shown.map fun h => .object (homeworkRow ctx.zone h)))]

def completeHomework (ctx : Context) (w : Desktop κ) (homework : String) (key : Option String) :
    Reply κ :=
  match w.target key with
  | .error f => w.failed f
  | .ok id =>
    match w.completeHomework id homework with
    | (.error f, w) => Desktop.failed w (.fault f)
    | (.ok (), w) =>
      Desktop.done w <|
        match ctx.format with
        | .table => [.success s!"Homework {homework} completed"]
        | format => [format.show (.object [("completed", .bool true), ("id", .string homework)])]

def rankingHeadings : List String := ["#", "Name", "Stamps", "Milestone", "Last stamp"]

def rankingCells (zone : Time.Zone) (r : Ranking) (place : Nat) : List String :=
  [toString (place + 1), r.name, toString r.stamps, if r.hasMilestone then "yes" else "-",
    (r.lastStampAt.map zone.writeMinute).getD "-"]

def listRankings (ctx : Context) (w : Desktop κ) : Reply κ :=
  w.done <|
    match ctx.format with
    | .table => [.tableOf rankingHeadings (w.ledgers.rankings.mapIdx fun place r =>
        rankingCells ctx.zone r place)]
    | format => [format.show (.array (w.ledgers.rankings.map Ranking.toJson))]

/-- The name of the student with an identity, or else the identity. -/
def nameOf (w : Desktop κ) (id : StudentId) : String :=
  ((w.roster.get? id).map (·.name)).getD id

def stampHeadings : List String := ["When", "Student", "Stamps"]

def stampCells (zone : Time.Zone) (w : Desktop κ) (e : RewardEntry) : List String :=
  [zone.writeMinute e.timestamp, nameOf w e.studentId, toString e.value]

def listRecentStamps (ctx : Context) (w : Desktop κ) (limit : Option Nat) : Reply κ :=
  let entries := w.ledgers.recentStamps (limit.getD ctx.recentLimit)
  w.done <|
    match ctx.format with
    | .table => [.tableOf stampHeadings (entries.map (stampCells ctx.zone w))]
    | format => [format.show (.array (entries.map RewardEntry.toJson))]

/-- Sets the balance of a student to zero; below the milestone only by force. -/
def resetStamps (w : Desktop κ) (key : Option String) (force : Bool) : Reply κ :=
  match w.targetStudent key with
  | .error f => w.failed f
  | .ok s =>
    if s.stamps.val < Student.milestoneStamps && !force then
      let goal := Student.milestoneStamps
      w.done [.info
        s!"{s.name} has {s.stamps} of {goal} stamps. Use --force to reset anyway."]
    else
      match w.resetStamps s.id with
      | (.error f, w) => Desktop.failed w (.fault f)
      | (.ok (), w) => Desktop.done w [.success s!"Reset {s.stamps} stamps for {s.name}"]

def gradeHeadings : List String := ["When", "Student", "Unit", "Question", "Result"]

def gradeCells (zone : Time.Zone) (w : Desktop κ) (e : LogEntry) : List String :=
  [zone.writeMinute e.timestamp, nameOf w e.studentId, e.unit, e.question, e.status.symbol]

def listGrades (ctx : Context) (w : Desktop κ) (entries : List LogEntry) : Reply κ :=
  w.done <|
    match ctx.format with
    | .table => [.tableOf gradeHeadings (entries.map (gradeCells ctx.zone w))]
    | format => [format.show (.array (entries.map LogEntry.toJson))]

def listRecentGrades (ctx : Context) (w : Desktop κ) (limit : Option Nat) : Reply κ :=
  listGrades ctx w (w.ledgers.recentGrades (limit.getD ctx.recentLimit))

def listWrongAnswers (ctx : Context) (w : Desktop κ) (key : Option String) (today : Bool) :
    Reply κ :=
  match w.targetStudent key with
  | .error f => w.failed f
  | .ok s =>
    let now := (IdClock.now w.desk.clock).1
    listGrades ctx w
      (if today then s.wrongAnswersSince (ctx.zone.dayStart now) else s.wrongAnswers)

end Gradebook.Terminal
