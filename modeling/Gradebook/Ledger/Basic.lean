import Gradebook.Ledger.Roster

/-!
# The ledgers

The roster, the grading log of all students, and the log of rewards.  The two logs only grow.
-/

namespace Gradebook

open Time (Instant)

/-- The ledgers that a command works on together. -/
structure Ledgers where
  roster : Roster
  grades : List LogEntry
  rewards : List RewardEntry
deriving DecidableEq

def Ledgers.empty : Ledgers := ⟨[], [], []⟩

instance : EmptyCollection Ledgers := ⟨.empty⟩

/-- The records from the latest to the earliest; of two at the same instant the one appended
later comes first. -/
def newestFirst {α : Type} (time : α → Instant) (records : List α) : List α :=
  records.reverse.mergeSort fun a b => !(time a).before (time b)

def recent {α : Type} (time : α → Instant) (n : Nat) (records : List α) : List α :=
  (newestFirst time records).take n

namespace Ledgers

def recentGrades (l : Ledgers) (n : Nat) : List LogEntry :=
  recent (·.timestamp) n l.grades

def gradesOf (l : Ledgers) (id : StudentId) : List LogEntry :=
  l.grades.filter (·.studentId = id)

def gradesWith (l : Ledgers) (id : StudentId) (status : Status) : List LogEntry :=
  (l.gradesOf id).filter (·.status = status)

def rewardsOf (l : Ledgers) (id : StudentId) : List RewardEntry :=
  l.rewards.filter (·.studentId = id)

/-- The number of penalty sheets that a student was ever given. -/
def penaltyTotal (l : Ledgers) (id : StudentId) : Nat :=
  (((l.rewardsOf id).filter (·.kind = .penalty)).map (·.value.val)).foldr (· + ·) 0

def stampEntries (l : Ledgers) : List RewardEntry :=
  l.rewards.filter (·.kind = .stamp)

def recentStamps (l : Ledgers) (n : Nat) : List RewardEntry :=
  recent (·.timestamp) n l.stampEntries

def latest? : List Instant → Option Instant
  | [] => none
  | t :: rest => some (rest.foldl Instant.later t)

def lastStampAt? (l : Ledgers) (id : StudentId) : Option Instant :=
  latest? (((l.rewardsOf id).filter (·.kind = .stamp)).map (·.timestamp))

end Ledgers

end Gradebook
