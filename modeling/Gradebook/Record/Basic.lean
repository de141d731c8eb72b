import Gradebook.Record.Count
import Gradebook.Record.Status
import Gradebook.Time.Instant

/-!
# Records

What the gradebook keeps: graded questions, homework items, reward entries, and the students who
hold a grading log, a homework list and a balance of stamps.
-/

namespace Gradebook

open Time (Instant)

abbrev StudentId := String

/-- The identity of a graded question, a homework item or a reward entry. -/
abbrev RecordId := String

structure LogEntry where
  id : RecordId
  studentId : StudentId
  unit : String
  question : String
  status : Status
  timestamp : Instant
deriving DecidableEq

structure Homework where
  id : RecordId
  unit : String
  range : String
  assignedAt : Instant
  completed : Bool
deriving DecidableEq

namespace Homework

def state (h : Homework) : HomeworkState :=
  if h.completed then .completed else .assigned

/-- Completes a homework item, where its state allows it. -/
def complete (h : Homework) : Homework :=
  if h.state.canBecome .completed then { h with completed := true } else h

/-- Open or completed before, an item is completed afterwards and otherwise the same. -/
theorem complete_eq (h : Homework) : h.complete = { h with completed := true } := by
  obtain ⟨id, unit, range, assignedAt, completed⟩ := h
  cases completed <;> rfl

theorem id_complete (h : Homework) : h.complete.id = h.id := by
  rw [h.complete_eq]

theorem assignedAt_complete (h : Homework) : h.complete.assignedAt = h.assignedAt := by
  rw [complete_eq]

theorem isFinal_state_complete (h : Homework) : h.complete.state.isFinal = true := by
  rw [h.complete_eq]
  rfl

theorem complete_of_isFinal {h : Homework} (hfinal : h.state.isFinal = true) : h.complete = h := by
  unfold complete
  rw [HomeworkState.canBecome_of_isFinal hfinal]
  rfl

theorem complete_complete (h : Homework) : h.complete.complete = h.complete :=
  complete_of_isFinal h.isFinal_state_complete

end Homework

/-- An award of stamps or a penalty. -/
structure RewardEntry where
  id : RecordId
  studentId : StudentId
  kind : RewardKind
  value : Count
  reason : Option String
  timestamp : Instant
deriving DecidableEq

structure Student where
  id : StudentId
  name : String
  stamps : Count
  logs : List LogEntry
  homework : List Homework
deriving DecidableEq

namespace Student

def new (id : StudentId) (name : String) : Student :=
  ⟨id, name, .zero, [], []⟩

/-- The balance of stamps that earns the milestone reward. -/
def milestoneStamps : Nat := 100

def reachesMilestone (stamps : Count) : Bool :=
  milestoneStamps ≤ stamps.val

def hasMilestone (s : Student) : Bool :=
  reachesMilestone s.stamps

end Student

end Gradebook
