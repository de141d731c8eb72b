import Gradebook.Text.Case

/-!
# Grades and kinds

The closed sets of marks that records carry: the status of a graded question, the kind of a
reward, and the two states of a homework item.
-/

namespace Gradebook

inductive Status where
  | correct
  | incorrect
  | partly
deriving DecidableEq, Repr

namespace Status

def symbol : Status → String
  | correct => "O"
  | incorrect => "X"
  | partly => "△"

/-- The status that a typed token names: its sign in either case, or the word `PARTIAL`. -/
def ofToken? (token : String) : Option Status :=
  match Text.upper token with
  | "O" => some correct
  | "X" => some incorrect
  | "△" | "PARTIAL" => some partly
  | _ => none

end Status

inductive RewardKind where
  | stamp
  | penalty
deriving DecidableEq, Repr

def RewardKind.name : RewardKind → String
  | stamp => "stamp"
  | penalty => "penalty"

inductive HomeworkState where
  | assigned
  | completed
deriving DecidableEq, Repr

namespace HomeworkState

/-- Assigned homework can be completed; nothing else changes. -/
def canBecome : HomeworkState → HomeworkState → Bool
  | assigned, completed => true
  | _, _ => false

def isFinal : HomeworkState → Bool
  | assigned => false
  | completed => true

theorem canBecome_of_isFinal {s : HomeworkState} (h : s.isFinal = true) (t : HomeworkState) :
    s.canBecome t = false := by
  cases s with
  | assigned => cases h
  | completed => rfl

def name : HomeworkState → String
  | assigned => "assigned"
  | completed => "completed"

def ofName? : String → Option HomeworkState
  | "assigned" => some assigned
  | "completed" => some completed
  | _ => none

end HomeworkState

end Gradebook
