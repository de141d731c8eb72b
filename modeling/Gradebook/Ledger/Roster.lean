import Gradebook.Record.Basic

/-!
# The roster

The students in the order in which they were added.  Identities are meant to be unique; where two
students share one, the first is meant.  An operation on an identity that is not on the roster
changes nothing.
-/

namespace Gradebook

/-- Applies a change to the first member of a list that satisfies a condition. -/
def updateFirst {α : Type} (p : α → Bool) (f : α → α) : List α → List α
  | [] => []
  | x :: rest => if p x then f x :: rest else x :: updateFirst p f rest

abbrev Roster := List Student

namespace Roster

def get? (r : Roster) (id : StudentId) : Option Student :=
  r.find? (·.id = id)

def findByName? (r : Roster) (name : String) : Option Student :=
  r.find? (·.name = name)

def has (r : Roster) (id : StudentId) : Bool :=
  (r.get? id).isSome

def update (r : Roster) (id : StudentId) (f : Student → Student) : Roster :=
  updateFirst (·.id = id) f r

def add (r : Roster) (s : Student) : Roster :=
  r ++ [s]

def appendLog (r : Roster) (id : StudentId) (e : LogEntry) : Roster :=
  r.update id fun s => { s with logs := s.logs ++ [e] }

def appendHomework (r : Roster) (id : StudentId) (h : Homework) : Roster :=
  r.update id fun s => { s with homework := s.homework ++ [h] }

/-- Changes a student's balance of stamps, held between zero and the largest count. -/
def adjustStamps (r : Roster) (id : StudentId) (delta : Int) : Roster :=
  r.update id fun s => { s with stamps := s.stamps.adjust delta }

/-- Changes a student's balance by a word. -/
def adjustStampsByWord (r : Roster) (id : StudentId) (delta : Int) : Except Panic Roster :=
  match r.get? id with
  | none => .ok r
  | some s => (s.stamps.adjustByWord delta).map fun stamps => r.update id ({ · with stamps })

def resetStamps (r : Roster) (id : StudentId) : Roster :=
  r.update id fun s => { s with stamps := .zero }

def hasHomework (r : Roster) (id : StudentId) (homework : RecordId) : Bool :=
  match r.get? id with
  | some s => s.homework.any (·.id = homework)
  | none => false

/-- Completes the first of a student's homework items with an identity. -/
def completeHomework (r : Roster) (id : StudentId) (homework : RecordId) : Roster :=
  r.update id fun s =>
    { s with homework := updateFirst (·.id = homework) Homework.complete s.homework }

end Roster

end Gradebook
