import Gradebook.Proofs.Ledger.Dispatch
import Gradebook.Proofs.Ledger.Portrait

/-!
# Ledgers apart from identities and times

The records of a desk with the identity and the time taken out of each.  What a typed line does to
them, and its outcome, depend on nothing that was taken out: the line does the same on the desk of a
clock that marks all records alike.
-/

namespace Gradebook

open Time (Instant)

def LogEntry.unmarked (e : LogEntry) : LogEntry :=
  { e with id := "", timestamp := .epoch }

def Homework.unmarked (h : Homework) : Homework :=
  { h with id := "", assignedAt := .epoch }

def RewardEntry.unmarked (e : RewardEntry) : RewardEntry :=
  { e with id := "", timestamp := .epoch }

/-- The student keeps its own identity. -/
def Student.unmarked (s : Student) : Student :=
  { s with logs := s.logs.map LogEntry.unmarked, homework := s.homework.map Homework.unmarked }

def Ledgers.unmarked (l : Ledgers) : Ledgers where
  roster := l.roster.map Student.unmarked
  grades := l.grades.map LogEntry.unmarked
  rewards := l.rewards.map RewardEntry.unmarked

/-- A clock that marks all records alike. -/
structure StillClock where

instance : IdClock StillClock where
  newId c _ := ("", c)
  now c := (.epoch, c)

theorem map_updateFirst_through {α β : Type} {p : α → Bool} {q : β → Bool} {f : α → α} {g : β → β}
    {m : α → β} (hp : ∀ x, q (m x) = p x) (hf : ∀ x, m (f x) = g (m x)) (l : List α) :
    (updateFirst p f l).map m = updateFirst q g (l.map m) := by
  induction l with
  | nil => rfl
  | cons x l ih =>
    rw [List.map_cons, updateFirst, updateFirst, hp x]
    split
    · rw [List.map_cons, hf]
    · rw [List.map_cons, ih]

namespace Roster

theorem map_unmarked_update (r : Roster) (id : StudentId) {f g : Student → Student}
    (h : ∀ s, (f s).unmarked = g s.unmarked) :
    (r.update id f).map Student.unmarked = update (r.map Student.unmarked) id g :=
  map_updateFirst_through (p := fun s : Student => decide (s.id = id)) (fun _ => rfl) h r

theorem has_map_unmarked (r : Roster) (id : StudentId) :
    has (r.map Student.unmarked) id = r.has id := by
  have hget : get? (r.map Student.unmarked) id = (r.get? id).map Student.unmarked :=
    List.find?_map ..
  rw [has, has, hget, Option.isSome_map]

/-- The student that a key means. -/
def resolve (r : Roster) (key : String) : Option Student :=
  (r.get? key).or (r.findByName? key)

/-- The identities and names that students are meant by. -/
def register (r : Roster) : List (StudentId × String) :=
  r.map fun s => (s.id, s.name)

theorem resolve_register (r : Roster) (key : String) :
    (r.resolve key).map (fun s => (s.id, s.name)) =
      (r.register.find? (·.1 = key)).or (r.register.find? (·.2 = key)) := by
  rw [resolve, Option.map_or, register, List.find?_map, List.find?_map]
  rfl

theorem id_resolve {r q : Roster} (h : r.register = q.register) (key : String) :
    (r.resolve key).map (·.id) = (q.resolve key).map (·.id) := by
  have hsame : (r.resolve key).map (fun s => (s.id, s.name)) =
      (q.resolve key).map fun s => (s.id, s.name) := by
    rw [resolve_register, resolve_register, h]
  have hids := congrArg (Option.map Prod.fst) hsame
  rwa [Option.map_map, Option.map_map] at hids

theorem register_update (r : Roster) (id : StudentId) {f : Student → Student}
    (h : ∀ s, ((f s).id, (f s).name) = (s.id, s.name)) : (r.update id f).register = r.register :=
  map_updateFirst _ h r

theorem register_map_unmarked (r : Roster) : register (r.map Student.unmarked) = r.register :=
  List.map_map

end Roster

namespace Desk

variable {κ ι : Type}

def unmarked (d : Desk κ) : Desk StillClock :=
  ⟨d.ledgers.unmarked, ⟨⟩, d.tally⟩

theorem target_unmarked (d : Desk κ) (student : Option StudentId) :
    d.unmarked.target student = d.target student := by
  cases student with
  | none => rfl
  | some id =>
    have hhas : d.unmarked.ledgers.roster.has id = d.ledgers.roster.has id :=
      Roster.has_map_unmarked _ id
    simp only [target, hhas]

variable [IdClock κ] [IdClock ι]

theorem register_apply (d : Desk κ) (id : StudentId) (a : Action) :
    (d.apply id a).ledgers.roster.register = d.ledgers.roster.register := by
  cases a with
  | recordGrade unit question status => exact Roster.register_update _ _ fun s => rfl
  | assignHomework unit range => exact Roster.register_update _ _ fun s => rfl
  | adjustStamps delta => exact Roster.register_update _ _ fun s => rfl
  | recordReward kind value => rfl

theorem register_run (d : Desk κ) (current : Option StudentId) (input : String) :
    (d.run current input).2.ledgers.roster.register = d.ledgers.roster.register := by
  have hactions (id : StudentId) (actions : List Action) (e : Desk κ) :
      (actions.foldl (·.apply id) e).ledgers.roster.register = e.ledgers.roster.register := by
    induction actions generalizing e with
    | nil => rfl
    | cons a actions ih => rw [List.foldl_cons, ih, register_apply]
  obtain ⟨message, hrun⟩ | ⟨id, c, -, -, -, hrun⟩ := d.run_cases current input
  · rw [hrun]
    rfl
  · rw [hrun]
    exact hactions id c.actions d

theorem unmarked_apply (d : Desk κ) (id : StudentId) (a : Action) :
    (d.apply id a).unmarked = d.unmarked.apply id a := by
  cases a with
  | recordGrade unit question status =>
    simp only [apply, recordGrade, stamp, unmarked, Ledgers.unmarked, IdClock.newId, IdClock.now,
      Roster.appendLog, List.map_append, List.map_cons, List.map_nil]
    rw [Roster.map_unmarked_update]
    · rfl
    · intro s
      simp only [Student.unmarked, List.map_append, List.map_cons, List.map_nil]
      rfl
  | assignHomework unit range =>
    simp only [apply, stamp, unmarked, Ledgers.unmarked, IdClock.newId, IdClock.now,
      Roster.appendHomework]
    rw [Roster.map_unmarked_update]
    intro s
    simp only [Student.unmarked, List.map_append, List.map_cons, List.map_nil]
    rfl
  | adjustStamps delta =>
    simp only [apply, unmarked, Ledgers.unmarked, Roster.adjustStamps]
    rw [Roster.map_unmarked_update]
    intro s
    rfl
  | recordReward kind value =>
    simp only [apply, stamp, unmarked, Ledgers.unmarked, IdClock.newId, IdClock.now,
      List.map_append, List.map_cons, List.map_nil]
    rfl

theorem unmarked_foldl_apply (id : StudentId) (actions : List Action) (d : Desk κ) :
    (actions.foldl (·.apply id) d).unmarked = actions.foldl (·.apply id) d.unmarked := by
  induction actions generalizing d with
  | nil => rfl
  | cons a actions ih => rw [List.foldl_cons, List.foldl_cons, ih, unmarked_apply]

theorem unmarked_run (d : Desk κ) (current : Option StudentId) (input : String) :
    (d.run current input).1 = (d.unmarked.run current input).1 ∧
      (d.run current input).2.unmarked = (d.unmarked.run current input).2 := by
  have htarget := d.target_unmarked current
  unfold run accept execute
  rw [htarget]
  cases d.target current with
  | error r => exact ⟨rfl, rfl⟩
  | ok id =>
    cases Command.parse input with
    | error e => exact ⟨rfl, rfl⟩
    | ok c =>
      exact ⟨rfl, congrArg (·.count (.applied c.kind)) (unmarked_foldl_apply id c.actions d)⟩

/-- A line does the same on desks whose ledgers differ in identities and times alone. -/
theorem run_alike {d : Desk κ} {e : Desk ι} (h : d.ledgers.unmarked = e.ledgers.unmarked)
    (current : Option StudentId) (input : String) :
    (d.run current input).1 = (e.run current input).1 ∧
      (d.run current input).2.ledgers.unmarked = (e.run current input).2.ledgers.unmarked := by
  have hdesk : d.unmarked = e.unmarked.withTally d.tally := by
    rw [unmarked, h]
    rfl
  obtain ⟨hd, hdafter⟩ := d.unmarked_run current input
  obtain ⟨he, heafter⟩ := e.unmarked_run current input
  obtain ⟨u, hrun⟩ := e.unmarked.run_withTally d.tally current input
  rw [← hdesk] at hrun
  refine ⟨?_, ?_⟩
  · rw [hd, he, hrun]
  · have hleft := congrArg Desk.ledgers hdafter
    have hright := congrArg Desk.ledgers heafter
    rw [hrun] at hleft
    exact hleft.trans hright.symm

end Desk

end Gradebook
