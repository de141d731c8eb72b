import Gradebook.Ledger.Views
import Gradebook.Terminal.Session
import Gradebook.Time.Zone

/-!
# Requests about students

Adding a student, listing the roster, selecting a student for later runs, and showing a card with
the wrong answers of the day and the open homework.
-/

namespace Gradebook.Terminal

variable {κ : Type} [IdClock κ]

def addStudent (ctx : Context) (w : Desktop κ) (name : String) (select : Bool) : Reply κ :=
  match w.addStudent name with
  | (.error f, w) => Desktop.failed w (.fault f)
  | (.ok s, w) =>
    match if select then Preferences.store w.store.tree ctx.home selectionName s.id
      else (none, w.store.tree) with
    | (some p, tree) => (Desktop.withTree w tree).failed (.preferences p)
    | (none, tree) =>
      (Desktop.withTree w tree).done <|
        match ctx.format with
        | .table =>
          [.success "Student added", .detail "ID" s.id, .detail "Name" s.name] ++
            if select then [.detail "Selected" "yes"] else []
        | format => [format.show s.toJson]

/-- What is shown of a student in the roster. -/
structure RosterRow where
  selected : Bool
  summary : Summary

namespace RosterRow

def mark (r : RosterRow) : String :=
  if r.selected then "*" else ""

def headings : List String := ["", "ID", "Name", "Stamps", "Wrong", "Open HW", "Penalty"]

def cells (r : RosterRow) : List String :=
  [r.mark, r.summary.id, r.summary.name, toString r.summary.stamps,
    toString r.summary.wrongAnswers, toString r.summary.incompleteHomework,
    toString r.summary.penaltyTotal]

def toJson (r : RosterRow) : Json.Value :=
  .object [("selected", .string r.mark), ("id", .string r.summary.id),
    ("name", .string r.summary.name), ("stamps", r.summary.stamps.toJson),
    ("wrong_answers", .integer r.summary.wrongAnswers),
    ("incomplete_homework", .integer r.summary.incompleteHomework),
    ("penalty_total", .integer r.summary.penaltyTotal)]

end RosterRow

def listStudents (ctx : Context) (w : Desktop κ) (query : Option String) : Reply κ :=
  let rows := (w.roster.search (query.getD "")).map fun s =>
    RosterRow.mk (w.current = some s.id) (w.ledgers.summary s)
  w.done <|
    match ctx.format with
    | .table => [.tableOf RosterRow.headings (rows.map RosterRow.cells)]
    | format => [format.show (.array (rows.map RosterRow.toJson))]

def selectStudent (ctx : Context) (w : Desktop κ) (key : String) : Reply κ :=
  match w.targetStudent (some key) with
  | .error f => w.failed f
  | .ok s =>
    match Preferences.store w.tree ctx.home selectionName s.id with
    | (some p, tree) => (w.withTree tree).failed (.preferences p)
    | (none, tree) =>
      (w.withTree tree).done <|
        match ctx.format with
        | .table => [.success s!"Selected {s.name} ({s.id})"]
        | format => [format.show s.toJson]

/-- What is shown of one student. -/
structure Card where
  summary : Summary
  wrongToday : List LogEntry
  openHomework : List Homework

namespace Card

def toJson (c : Card) : Json.Value :=
  .object (c.summary.members ++
    [("wrong_today", .array (c.wrongToday.map LogEntry.toJson)),
      ("open_homework", .array (c.openHomework.map Homework.toJson))])

def items (zone : Time.Zone) (c : Card) : List Print :=
  let s := c.summary
  let orNone (rows : List Print) (text : String) : List Print :=
    if rows.isEmpty then [.info text] else rows
  [.heading s.name, .detail "ID" s.id, .detail "Stamps" s!"{s.stamps} / {Student.milestoneStamps}",
      .detail "Wrong answers" (toString s.wrongAnswers),
      .detail "Partial answers" (toString s.partialAnswers),
      .detail "Open homework" (toString s.incompleteHomework),
      .detail "Penalty sheets" (toString s.penaltyTotal)] ++
    (if s.hasMilestone then
      [.line "", .success
        s!"{Student.milestoneStamps} stamps reached! Redeem with \x60tutor stamps reset\x60"]
    else []) ++
    .heading "Wrong answers today" ::
    orNone (c.wrongToday.map fun e =>
      .line s!"  {zone.writeMinute e.timestamp} {e.unit} {e.question}") "None so far." ++
    .heading "Open homework" ::
    orNone (c.openHomework.map fun h => .line s!"  [{h.id}] {h.unit} {h.range}") "All done."

end Card

def showStudent (ctx : Context) (w : Desktop κ) (key : Option String) : Reply κ :=
  match w.targetStudent key with
  | .error f => w.failed f
  | .ok s =>
    let now := (IdClock.now w.desk.clock).1
    let card : Card := ⟨w.ledgers.summary s, s.wrongAnswersSince (ctx.zone.dayStart now),
      s.incompleteHomework⟩
    w.done <|
      match ctx.format with
      | .table => card.items ctx.zone
      | format => [format.show card.toJson]

end Gradebook.Terminal
