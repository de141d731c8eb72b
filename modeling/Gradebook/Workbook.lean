import Gradebook.Ledger.Dispatch
import Gradebook.Text.Blank

/-!
# Workbooks

A workbook is the desk over a store, with a selected student.  Every operation that changes a
collection saves it at once; a save that fails is counted and otherwise passed over, so that the
ledgers in memory stay ahead of the store until a later save succeeds.
-/

namespace Gradebook

/-- The desk over a store, with the student selected, if any. -/
structure Workbook (σ κ : Type) where
  desk : Desk κ
  store : σ
  current : Option StudentId

namespace Workbook

variable {σ κ : Type} [CollectionStore σ] [IdClock κ]

def ledgers (w : Workbook σ κ) : Ledgers := w.desk.ledgers

def roster (w : Workbook σ κ) : Roster := w.desk.ledgers.roster

def recordsOf (l : Ledgers) : (c : Collection) → List c.Record
  | .students => l.roster
  | .grades => l.grades
  | .rewards => l.rewards

def loading (store : σ) (c : Collection) : Fallible (List c.Record) :=
  (CollectionStore.loading store c).adapt (·.detailed s!"loading {c.name}")

def load (store : σ) (c : Collection) : Except Fault (List c.Record) :=
  (loading store c).run.value

/-- Loads the three collections; the first that fails decides the fault. -/
def loadingLedgers (store : σ) : Fallible Ledgers := do
  let roster ← loading store .students
  let grades ← loading store .grades
  let rewards ← loading store .rewards
  return ⟨roster, grades, rewards⟩

def loadLedgers (store : σ) : Except Fault Ledgers :=
  (loadingLedgers store).run.value

/-- The workbook over a store, with the faults of loading counted; where it cannot be opened, the
counters come with the fault. -/
def «open» (store : σ) (clock : κ) (tally : Tally) : Except (Fault × Tally) (Workbook σ κ) :=
  let loaded := (loadingLedgers store).run
  let tally := tally.countFaults loaded.faults
  match loaded.value with
  | .error f => .error (f, tally)
  | .ok ledgers => .ok ⟨⟨ledgers, clock, tally⟩, store, none⟩

def count (w : Workbook σ κ) (c : Counter) : Workbook σ κ :=
  { w with desk := w.desk.count c }

def countFaults (w : Workbook σ κ) (codes : List FaultCode) : Workbook σ κ :=
  { w with desk := w.desk.countFaults codes }

def fail {α : Type} (w : Workbook σ κ) (f : Counted Fault) : Except Fault α × Workbook σ κ :=
  (.error f.value, w.countFaults f.faults)

/-- Saves a collection.  The store counts its fault; a save that fails is counted besides. -/
def persistOne (w : Workbook σ κ) (c : Collection) : Workbook σ κ :=
  let saved := CollectionStore.saving w.store c (recordsOf w.ledgers c)
  let w := { w with store := saved.value.2 }.countFaults saved.faults
  match saved.value.1 with
  | none => w
  | some _ => w.count (.failedSave c)

def persist (w : Workbook σ κ) (cs : List Collection) : Workbook σ κ :=
  cs.foldl persistOne w

def withRoster (w : Workbook σ κ) (r : Roster) : Workbook σ κ :=
  { w with desk := { w.desk with ledgers := { w.desk.ledgers with roster := r } } }

def currentStudent (w : Workbook σ κ) : Option Student :=
  w.current.bind w.roster.get?

/-- The student that a key means: the one with that identity, or else with that name. -/
def resolve (w : Workbook σ κ) (key : String) : Option Student :=
  (w.roster.get? key).or (w.roster.findByName? key)

def select (w : Workbook σ κ) (id : StudentId) : Except Fault Student × Workbook σ κ :=
  match w.roster.get? id with
  | some s => (.ok s, { w with current := some id })
  | none => w.fail (Fault.studentNotFound id)

def addStudent (w : Workbook σ κ) (name : String) : Except Fault Student × Workbook σ κ :=
  let name := Text.trim name
  if name = "" then w.fail (Fault.invalidInput "Student name must not be empty")
  else
    let (id, clock) := IdClock.newId w.desk.clock "student"
    let s := Student.new id name
    let w := { w with desk := { w.desk with clock } }
    (.ok s, (w.withRoster (w.roster.add s)).persist [.students])

def runCommand (w : Workbook σ κ) (input : String) : Outcome × Workbook σ κ :=
  let (outcome, desk) := w.desk.run w.current input
  (outcome, { w with desk }.persist outcome.touched)

def completeHomework (w : Workbook σ κ) (id : StudentId) (homework : RecordId) :
    Except Fault Unit × Workbook σ κ :=
  if !w.roster.has id then w.fail (Fault.studentNotFound id)
  else if !w.roster.hasHomework id homework then w.fail (Fault.homeworkNotFound homework)
  else (.ok (), (w.withRoster (w.roster.completeHomework id homework)).persist [.students])

def resetStamps (w : Workbook σ κ) (id : StudentId) : Except Fault Unit × Workbook σ κ :=
  if !w.roster.has id then w.fail (Fault.studentNotFound id)
  else (.ok (), (w.withRoster (w.roster.resetStamps id)).persist [.students])

/-- Opens the workbook anew over its store and clock, with no student selected; where that fails
the workbook stays as it is, but for what was counted. -/
def reopen (w : Workbook σ κ) : Except Fault Unit × Workbook σ κ :=
  match «open» w.store w.desk.clock w.desk.tally with
  | .ok opened => (.ok (), opened)
  | .error (f, tally) => (.error f, { w with desk := w.desk.withTally tally })

end Workbook

end Gradebook
