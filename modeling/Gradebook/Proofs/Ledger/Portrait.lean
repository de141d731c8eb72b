import Gradebook.Proofs.Ledger.Dispatch

/-!
# Portraits of a student

What ledgers tell of one student apart from identities and times.  A step for a student changes the
portrait in a way that depends on nothing else, and a step for another student leaves it alone.
-/

namespace Gradebook

/-- A change to the first member that satisfies a condition, seen through what is told of members. -/
theorem map_updateFirst_at {α β : Type} {p : α → Bool} {f : α → α} {g : α → β} {change : β → β}
    {l : List α} {i : Nat} (hfound : l.findIdx? p = some i) (hf : ∀ x, g (f x) = change (g x)) :
    (updateFirst p f l).map g = (l.map g).modify i change := by
  induction l generalizing i with
  | nil => cases hfound
  | cons x l ih =>
    unfold updateFirst
    rw [List.findIdx?_cons] at hfound
    split at hfound
    next hx =>
      cases hfound
      rw [if_pos hx, List.map_cons, List.map_cons, List.modify_zero_cons, hf]
    next hx =>
      obtain ⟨j, hj, rfl⟩ := Option.map_eq_some_iff.1 hfound
      rw [if_neg hx, List.map_cons, List.map_cons, List.modify_succ_cons, ih hj]

namespace Roster

theorem get?_add (r : Roster) (s : Student) (id : StudentId) :
    (r.add s).get? id = (r.get? id).or (if s.id = id then some s else none) := by
  unfold get? add
  rw [List.find?_append, List.find?_cons]
  by_cases h : s.id = id
  · rw [decide_eq_true h, if_pos h]
  · rw [decide_eq_false h, if_neg h, List.find?_nil]

end Roster

/-- What a student's record tells apart from identities and times. -/
structure Sketch where
  name : String
  stamps : Count
  /-- Unit, question and status of the graded questions. -/
  graded : List (String × String × Status)
  /-- Unit, range and completion of the homework items. -/
  homework : List (String × String × Bool)
deriving DecidableEq

def Student.sketch (s : Student) : Sketch where
  name := s.name
  stamps := s.stamps
  graded := s.logs.map fun e => (e.unit, e.question, e.status)
  homework := s.homework.map fun item => (item.unit, item.range, item.completed)

/-- What ledgers tell of one student: the record, if there is one, and kind, value and reason of the
awards. -/
structure Portrait where
  student : Option Sketch
  awards : List (RewardKind × Count × Option String)

def RewardEntry.award (e : RewardEntry) : RewardKind × Count × Option String :=
  (e.kind, e.value, e.reason)

def Ledgers.portrait (l : Ledgers) (id : StudentId) : Portrait where
  student := (l.roster.get? id).map Student.sketch
  awards := (l.rewardsOf id).map RewardEntry.award

namespace Sketch

def new (name : String) : Sketch := ⟨name, .zero, [], []⟩

def complete (s : Sketch) (place : Nat) : Sketch :=
  { s with homework := s.homework.modify place fun (unit, range, _) => (unit, range, true) }

end Sketch

namespace Portrait

def change (p : Portrait) (f : Sketch → Sketch) : Portrait :=
  { p with student := p.student.map f }

/-- The portrait after a step for the student. -/
def act (p : Portrait) : Action → Portrait
  | .recordGrade unit question status =>
    p.change fun s => { s with graded := s.graded ++ [(unit, question, status)] }
  | .assignHomework unit range =>
    p.change fun s => { s with homework := s.homework ++ [(unit, range, false)] }
  | .adjustStamps delta => p.change fun s => { s with stamps := s.stamps.adjust delta }
  | .recordReward kind value => { p with awards := p.awards ++ [(kind, value, some kind.name)] }

end Portrait

namespace Ledgers

variable {l : Ledgers} {g : List LogEntry}

theorem student_portrait (l : Ledgers) (id : StudentId) :
    (l.portrait id).student.isSome = l.roster.has id :=
  Option.isSome_map

theorem student_portrait_of_get? {id : StudentId} {s : Student} (hs : l.roster.get? id = some s) :
    (l.portrait id).student = some s.sketch := by
  rw [portrait, hs]
  rfl

/-- A change to a student's record that is the same change to every record that looks the same. -/
theorem portrait_update {id : StudentId} {change : Student → Student} {f : Sketch → Sketch}
    (hid : ∀ s, (change s).id = s.id)
    (hchange : ∀ s, l.roster.get? id = some s → (change s).sketch = f s.sketch) :
    portrait ⟨l.roster.update id change, g, l.rewards⟩ id = (l.portrait id).change f := by
  have hget := Roster.get?_update l.roster id id hid
  rw [if_pos rfl] at hget
  unfold portrait Portrait.change
  simp only [hget, rewardsOf, Option.map_map]
  cases hs : l.roster.get? id with
  | none => rfl
  | some s => simp only [Option.map_some, Function.comp_apply, hchange s hs]

theorem portrait_update_other {id other : StudentId} {change : Student → Student}
    (hid : ∀ s, (change s).id = s.id) (h : other ≠ id) :
    portrait ⟨l.roster.update id change, g, l.rewards⟩ other = l.portrait other := by
  have hget := Roster.get?_update l.roster id other hid
  rw [if_neg h] at hget
  unfold portrait
  rw [hget]
  rfl

theorem portrait_add_new {s : Student} (h : l.roster.has s.id = false) :
    portrait ⟨l.roster.add s, g, l.rewards⟩ s.id =
      { l.portrait s.id with student := some s.sketch } := by
  have hmissing : l.roster.get? s.id = none := by
    rw [← Option.not_isSome_iff_eq_none]
    exact ne_true_of_eq_false h
  unfold portrait
  rw [Roster.get?_add, hmissing, if_pos rfl]
  rfl

/-- An addition leaves the portrait of every student that is there, also of one with the identity. -/
theorem portrait_add_other {s : Student} {id : StudentId}
    (h : s.id = id → l.roster.has id = true) :
    portrait ⟨l.roster.add s, g, l.rewards⟩ id = l.portrait id := by
  have hget : (l.roster.add s).get? id = l.roster.get? id := by
    rw [Roster.get?_add]
    by_cases hid : s.id = id
    · obtain ⟨t, ht⟩ := Option.isSome_iff_exists.1 (h hid)
      rw [ht, Option.some_or]
    · rw [if_neg hid, Option.or_none]
  unfold portrait
  rw [hget]
  rfl

theorem portrait_resetStamps (id : StudentId) :
    portrait ⟨l.roster.resetStamps id, g, l.rewards⟩ id =
      (l.portrait id).change fun s => { s with stamps := .zero } := by
  apply portrait_update
  · intro s
    rfl
  · intro s _
    rfl

theorem portrait_completeHomework {id : StudentId} {homework : RecordId} {s : Student}
    {place : Nat} (hs : l.roster.get? id = some s)
    (hplace : s.homework.findIdx? (·.id = homework) = some place) :
    portrait ⟨l.roster.completeHomework id homework, g, l.rewards⟩ id =
      (l.portrait id).change (·.complete place) := by
  apply portrait_update
  · intro t
    rfl
  · intro t ht
    cases hs.symm.trans ht
    simp only [Student.sketch, Sketch.complete]
    rw [map_updateFirst_at hplace]
    intro item
    rw [item.complete_eq]

end Ledgers

namespace Desk

variable {κ : Type} [IdClock κ]

theorem portrait_apply (d : Desk κ) (id : StudentId) (a : Action) :
    (d.apply id a).ledgers.portrait id = (d.ledgers.portrait id).act a := by
  cases a with
  | recordGrade unit question status =>
    refine Ledgers.portrait_update (fun s => rfl) fun s _ => ?_
    simp only [Student.sketch, List.map_append, List.map_cons, List.map_nil]
  | assignHomework unit range =>
    refine Ledgers.portrait_update (fun s => rfl) fun s _ => ?_
    simp only [Student.sketch, List.map_append, List.map_cons, List.map_nil]
  | adjustStamps delta => exact Ledgers.portrait_update (fun s => rfl) fun s _ => rfl
  | recordReward kind value =>
    simp only [apply, stamp, Ledgers.portrait, Ledgers.rewardsOf, Portrait.act, List.filter_append,
      List.map_append, List.filter_cons_of_pos, List.filter_nil, decide_true, List.map_cons,
      List.map_nil, RewardEntry.award]

theorem portrait_apply_other (d : Desk κ) {id other : StudentId} (h : other ≠ id) (a : Action) :
    (d.apply id a).ledgers.portrait other = d.ledgers.portrait other := by
  cases a with
  | recordGrade unit question status => exact Ledgers.portrait_update_other (fun s => rfl) h
  | assignHomework unit range => exact Ledgers.portrait_update_other (fun s => rfl) h
  | adjustStamps delta => exact Ledgers.portrait_update_other (fun s => rfl) h
  | recordReward kind value =>
    simp only [apply, stamp, Ledgers.portrait, Ledgers.rewardsOf, List.filter_append,
      List.filter_cons, decide_eq_true_eq, if_neg h.symm, List.filter_nil, List.append_nil]

theorem portrait_foldl_apply (id : StudentId) (actions : List Action) (d : Desk κ) :
    (actions.foldl (·.apply id) d).ledgers.portrait id =
      actions.foldl .act (d.ledgers.portrait id) := by
  induction actions generalizing d with
  | nil => rfl
  | cons a actions ih => rw [List.foldl_cons, List.foldl_cons, ih, portrait_apply]

theorem portrait_foldl_apply_other {id other : StudentId} (h : other ≠ id)
    (actions : List Action) (d : Desk κ) :
    (actions.foldl (·.apply id) d).ledgers.portrait other = d.ledgers.portrait other := by
  induction actions generalizing d with
  | nil => rfl
  | cons a actions ih => rw [List.foldl_cons, ih, portrait_apply_other d h]

end Desk

end Gradebook
