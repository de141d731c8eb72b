import Gradebook.Record.Basic

/-!
# Commands

What a typed line asks for, and the steps on the ledgers that carry it out.
-/

namespace Gradebook

/-- What a typed line asks for. -/
inductive Command where
  | recordGrade (unit question : String) (status : Status)
  | assignHomework (unit range : String)
  | addStamps (amount : Count)
  | removeStamps (amount : Count)
  | penalty (sheets : Count)
  /-- A stamp command without a sign, which does nothing. -/
  | ignored
deriving DecidableEq

/-- One step on the ledgers. -/
inductive Action where
  | recordGrade (unit question : String) (status : Status)
  | assignHomework (unit range : String)
  | adjustStamps (delta : Int)
  | recordReward (kind : RewardKind) (value : Count)
deriving DecidableEq

namespace Command

def penaltyUnit : String := "penalty"

def penaltyRange (sheets : Count) : String :=
  s!"{sheets} sheets"

def kind : Command → String
  | recordGrade .. => "grade"
  | assignHomework .. => "homework"
  | addStamps _ | removeStamps _ => "stamp"
  | penalty _ => "penalty"
  | ignored => "ignored"

/-- The steps that carry a command out, in order. -/
def actions : Command → List Action
  | recordGrade unit question status => [.recordGrade unit question status]
  | assignHomework unit range => [.assignHomework unit range]
  | addStamps n => [.adjustStamps n.val, .recordReward .stamp n]
  | removeStamps n => [.adjustStamps (-n.val)]
  | penalty n => [.assignHomework penaltyUnit (penaltyRange n), .recordReward .penalty n]
  | ignored => []

end Command

end Gradebook
