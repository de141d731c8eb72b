import Gradebook.Collection

/-!
# Counters

How often commands were run, faults arose and saves failed.  A counter belongs to one of three
families and is told apart inside its family by labels.
-/

namespace Gradebook

inductive CounterFamily where
  | commands
  | faults
  | failedSaves
deriving DecidableEq, Repr

namespace CounterFamily

def all : List CounterFamily := [commands, faults, failedSaves]

def name : CounterFamily → String
  | commands => "tutor_commands_total"
  | faults => "tutor_errors_total"
  | failedSaves => "tutor_saves_failed_total"

def description : CounterFamily → String
  | commands => "Console commands by kind and outcome"
  | faults => "Errors by category and code"
  | failedSaves => "Collection saves that failed"

/-- What is told of the families to those who read the counters. -/
def descriptions : List (String × String) :=
  all.map fun f => (f.name, f.description)

end CounterFamily

inductive Counter where
  | applied (kind : String)
  /-- A line that was refused or is no command. -/
  | rejected
  | fault (code : FaultCode)
  /-- A collection that could not be saved. -/
  | failedSave (c : Collection)
deriving DecidableEq

namespace Counter

def family : Counter → CounterFamily
  | applied _ | rejected => .commands
  | fault _ => .faults
  | failedSave _ => .failedSaves

def labels : Counter → List (String × String)
  | applied kind => [("kind", kind), ("outcome", "applied")]
  | rejected => [("kind", "unknown"), ("outcome", "rejected")]
  | fault code => [("category", code.category), ("code", code.name)]
  | failedSave c => [("collection", c.name)]

end Counter

/-- What was counted, each event once, the latest first. -/
structure Tally where
  events : List Counter
deriving DecidableEq

namespace Tally

def empty : Tally := ⟨[]⟩

def count (t : Tally) (c : Counter) : Tally :=
  ⟨c :: t.events⟩

/-- Counts the faults that were made, by their codes. -/
def countFaults (t : Tally) (codes : List FaultCode) : Tally :=
  codes.foldl (fun t code => t.count (.fault code)) t

def total (t : Tally) (c : Counter) : Nat :=
  t.events.count c

def familyTotal (t : Tally) (f : CounterFamily) : Nat :=
  t.events.countP (·.family = f)

/-- How often a counter with the given labels was counted. -/
def labelled (t : Tally) (f : CounterFamily) (labels : List (String × String)) : Nat :=
  t.events.countP fun c => c.family = f && c.labels = labels

/-- The events that were counted, each with how often. -/
def totals (t : Tally) : List (Counter × Nat) :=
  t.events.eraseDups.map fun c => (c, t.total c)

theorem familyTotal_count (t : Tally) (c : Counter) (f : CounterFamily) :
    (t.count c).familyTotal f = t.familyTotal f + if c.family = f then 1 else 0 := by
  simp [familyTotal, count, List.countP_cons]

theorem labelled_count (t : Tally) (c : Counter) (f : CounterFamily)
    (labels : List (String × String)) :
    (t.count c).labelled f labels =
      t.labelled f labels + if c.family = f ∧ c.labels = labels then 1 else 0 := by
  simp [labelled, count, List.countP_cons]

theorem familyTotal_countFaults (t : Tally) (codes : List FaultCode) (f : CounterFamily) :
    (t.countFaults codes).familyTotal f =
      t.familyTotal f + if f = .faults then codes.length else 0 := by
  induction codes generalizing t with
  | nil => simp [countFaults]
  | cons code codes ih =>
    have hcons : t.countFaults (code :: codes) = (t.count (.fault code)).countFaults codes := rfl
    rw [hcons, ih, familyTotal_count]
    by_cases hf : f = .faults
    · simp only [Counter.family, hf, if_true, List.length_cons]
      omega
    · simp [Counter.family, hf, Ne.symm hf]

end Tally

end Gradebook
