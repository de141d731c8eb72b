import Gradebook.Proofs.Ledger.Identity
import Gradebook.Proofs.Ledger.Portrait
import Gradebook.Proofs.Workbook.Change

/-!
# Dealings with one student

The operations that deal with a student, told without identities.  The reply to such an operation
and the student's portrait after it follow from the dealing and the portrait before it; every other
operation leaves the portrait as it is.
-/

namespace Gradebook

/-- An operation that deals with one student.  An item of homework is meant by its place. -/
inductive Dealing where
  | add (name : String)
  | select
  | command (input : String)
  | complete (place : Nat)
  | reset
deriving DecidableEq

def Dealing.selection (id : StudentId) (current : Option StudentId) : Dealing → Option StudentId
  | .select => some id
  | .add _ | .command _ | .complete _ | .reset => current

/-- An answer apart from identities and times of the student in it. -/
inductive Reply where
  | student (s : Sketch)
  | outcome (o : Outcome)
  | done
  | failed (f : Fault)

def Answer.reply : Answer → Reply
  | .student (.ok s) => .student s.sketch
  | .outcome o => .outcome o
  | .done (.ok ()) => .done
  | .student (.error f) | .done (.error f) => .failed f

/-- A dealing with the student of a portrait, with its reply and the portrait after it. -/
inductive Portrait.Deals (p : Portrait) : Dealing → Reply → Portrait → Prop
  | added {name : String} (hname : Text.trim name ≠ "") (hnew : p.student = none) :
    p.Deals (.add name) (.student (.new (Text.trim name)))
      { p with student := some (.new (Text.trim name)) }
  | selected {s : Sketch} (hs : p.student = some s) : p.Deals .select (.student s) p
  | rejected {input : String} {e : CommandError} (hs : p.student.isSome)
      (hparse : Command.parse input = .error e) :
    p.Deals (.command input) (.outcome (.rejection e.message)) p
  | carriedOut {input : String} {c : Command} (hs : p.student.isSome)
      (hparse : Command.parse input = .ok c) :
    p.Deals (.command input) (.outcome c.outcome) (c.actions.foldl .act p)
  | completed {s : Sketch} {place : Nat} (hs : p.student = some s)
      (hplace : place < s.homework.length) :
    p.Deals (.complete place) .done (p.change (·.complete place))
  | reset (hs : p.student.isSome) :
    p.Deals .reset .done (p.change fun s => { s with stamps := .zero })

/-- Portrait and dealing decide the reply and the portrait after it. -/
theorem Portrait.Deals.unique {p next other : Portrait} {q : Dealing} {reply answer : Reply}
    (h : p.Deals q reply next) (h' : p.Deals q answer other) : reply = answer ∧ next = other := by
  cases h with
  | added hname hnew =>
    cases h'
    exact ⟨rfl, rfl⟩
  | selected hs =>
    cases h' with
    | selected ht =>
      cases hs.symm.trans ht
      exact ⟨rfl, rfl⟩
  | rejected hs hparse =>
    cases h' with
    | rejected ht hparse' =>
      cases hparse.symm.trans hparse'
      exact ⟨rfl, rfl⟩
    | carriedOut ht hparse' => cases hparse.symm.trans hparse'
  | carriedOut hs hparse =>
    cases h' with
    | rejected ht hparse' => cases hparse.symm.trans hparse'
    | carriedOut ht hparse' =>
      cases hparse.symm.trans hparse'
      exact ⟨rfl, rfl⟩
  | completed hs hplace =>
    cases h'
    exact ⟨rfl, rfl⟩
  | reset hs =>
    cases h'
    exact ⟨rfl, rfl⟩

theorem Portrait.isSome_student_act {p : Portrait} (h : p.student.isSome) (a : Action) :
    (p.act a).student.isSome := by
  cases a with
  | recordReward kind value => exact h
  | recordGrade | assignHomework | adjustStamps => exact Option.isSome_map.trans h

theorem Portrait.isSome_student_foldl_act {p : Portrait} (h : p.student.isSome)
    (actions : List Action) : (actions.foldl .act p).student.isSome := by
  induction actions generalizing p with
  | nil => exact h
  | cons a actions ih => exact ih (isSome_student_act h a)

theorem Portrait.Deals.isSome_student {p next : Portrait} {q : Dealing} {reply : Reply}
    (h : p.Deals q reply next) : next.student.isSome := by
  cases h with
  | added hname hnew => rfl
  | selected hs => exact Option.isSome_of_eq_some hs
  | rejected hs hparse => exact hs
  | carriedOut hs hparse => exact isSome_student_foldl_act hs _
  | completed hs hplace => exact Option.isSome_map.trans (Option.isSome_of_eq_some hs)
  | reset hs => exact Option.isSome_map.trans hs

/-! ### Operations that deal with a student -/

/-- The place of the first item with an identity in a student's homework. -/
def Roster.homeworkPlace? (r : Roster) (id : StudentId) (homework : RecordId) : Option Nat :=
  (r.get? id).bind fun s => s.homework.findIdx? (·.id = homework)

namespace Desk

variable {κ : Type} [IdClock κ] {d : Desk κ} {current : Option StudentId} {id : StudentId}

/-- The dealing with a student that an operation is: adding the student, selecting, a typed line
while the student is selected, a reset, or completing an item of the student's homework.  Operations
that deal with other students and operations that fail are none. -/
def dealing? (d : Desk κ) (current : Option StudentId) (id : StudentId) :
    Operation → Option Dealing
  | .addStudent name =>
    if Text.trim name ≠ "" ∧ (IdClock.newId d.clock "student").1 = id ∧
        d.ledgers.roster.has id = false then some (.add name) else none
  | .select selected =>
    if selected = id ∧ d.ledgers.roster.has id = true then some .select else none
  | .runCommand input => if current = some id then some (.command input) else none
  | .completeHomework owner homework =>
    if owner = id then (d.ledgers.roster.homeworkPlace? id homework).map .complete else none
  | .resetStamps owner =>
    if owner = id ∧ d.ledgers.roster.has id = true then some .reset else none

/-- An operation that deals with a student, with what holds before it. -/
inductive IsDealing (d : Desk κ) (current : Option StudentId) (id : StudentId) :
    Operation → Dealing → Prop
  | add {name : String} (hname : Text.trim name ≠ "")
      (hid : (IdClock.newId d.clock "student").1 = id) (hmissing : d.ledgers.roster.has id = false) :
    d.IsDealing current id (.addStudent name) (.add name)
  | select {s : Student} (hs : d.ledgers.roster.get? id = some s) :
    d.IsDealing current id (.select id) .select
  | command {input : String} (hcurrent : current = some id) :
    d.IsDealing current id (.runCommand input) (.command input)
  | complete {s : Student} {homework : RecordId} {place : Nat}
      (hs : d.ledgers.roster.get? id = some s)
      (hplace : s.homework.findIdx? (·.id = homework) = some place) :
    d.IsDealing current id (.completeHomework id homework) (.complete place)
  | reset (hstudent : d.ledgers.roster.has id = true) :
    d.IsDealing current id (.resetStamps id) .reset

theorem dealing?_of_isDealing {o : Operation} {q : Dealing} (h : d.IsDealing current id o q) :
    d.dealing? current id o = some q := by
  cases h with
  | add hname hid hmissing => exact if_pos ⟨hname, hid, hmissing⟩
  | select hs =>
    have hstudent : d.ledgers.roster.has id = true := Option.isSome_of_eq_some hs
    exact if_pos ⟨rfl, hstudent⟩
  | command hcurrent => exact if_pos hcurrent
  | complete hs hplace =>
    simp only [dealing?, if_true, Roster.homeworkPlace?, hs, Option.bind_some, hplace,
      Option.map_some]
  | reset hstudent => exact if_pos ⟨rfl, hstudent⟩

theorem isDealing_of_dealing? {o : Operation} {q : Dealing} (h : d.dealing? current id o = some q) :
    d.IsDealing current id o q := by
  cases o with
  | addStudent name =>
    obtain ⟨⟨hname, hid, hmissing⟩, ⟨⟩⟩ := Option.ite_none_right_eq_some.1 h
    exact .add hname hid hmissing
  | select selected =>
    obtain ⟨⟨rfl, hstudent⟩, ⟨⟩⟩ := Option.ite_none_right_eq_some.1 h
    obtain ⟨s, hs⟩ := Option.isSome_iff_exists.1 hstudent
    exact .select hs
  | runCommand input =>
    obtain ⟨hcurrent, ⟨⟩⟩ := Option.ite_none_right_eq_some.1 h
    exact .command hcurrent
  | completeHomework owner homework =>
    obtain ⟨rfl, hitem⟩ := Option.ite_none_right_eq_some.1 h
    obtain ⟨place, hfound, rfl⟩ := Option.map_eq_some_iff.1 hitem
    obtain ⟨s, hs, hplace⟩ := Option.bind_eq_some_iff.1 hfound
    exact .complete hs hplace
  | resetStamps owner =>
    obtain ⟨⟨rfl, hstudent⟩, ⟨⟩⟩ := Option.ite_none_right_eq_some.1 h
    exact .reset hstudent

theorem not_isDealing_of_dealing? {o : Operation} (h : d.dealing? current id o = none)
    (q : Dealing) : ¬ d.IsDealing current id o q := by
  intro hq
  cases h.symm.trans (dealing?_of_isDealing hq)

/-! ### Operations that deal with the student -/

theorem deals_addStudent {name : String} (hname : Text.trim name ≠ "")
    (hmissing : d.ledgers.roster.has (IdClock.newId d.clock "student").1 = false) :
    (d.ledgers.portrait (IdClock.newId d.clock "student").1).Deals (.add name)
      (d.effect current (.addStudent name)).answer.reply
      ((d.effect current (.addStudent name)).desk.ledgers.portrait
        (IdClock.newId d.clock "student").1) := by
  have hnew : (d.ledgers.portrait (IdClock.newId d.clock "student").1).student = none := by
    rw [← Option.not_isSome_iff_eq_none, Ledgers.student_portrait, hmissing]
    exact Bool.false_ne_true
  have hportrait := Ledgers.portrait_add_new (g := d.ledgers.grades) (l := d.ledgers)
    (s := .new (IdClock.newId d.clock "student").1 (Text.trim name)) hmissing
  simp only [effect, if_neg hname, withRoster]
  exact hportrait ▸ .added hname hnew

theorem deals_runCommand {input : String} (hid : id ∈ Roster.ids d.ledgers.roster) :
    (d.ledgers.portrait id).Deals (.command input)
      (d.effect (some id) (.runCommand input)).answer.reply
      ((d.effect (some id) (.runCommand input)).desk.ledgers.portrait id) := by
  have hstudent : (d.ledgers.portrait id).student.isSome := by
    rw [Ledgers.student_portrait]
    exact (Roster.has_iff _ id).2 hid
  obtain ⟨hnone, -⟩ | ⟨_, hcurrent, hmissing, -⟩ | ⟨_, e, -, -, hparse, hrun⟩ |
    ⟨_, c, hcurrent, -, hparse, -, hrun⟩ := d.run_spec (some id) input
  · cases hnone
  · cases hcurrent
    exact absurd hid hmissing
  · simp only [effect, hrun]
    exact .rejected hstudent hparse
  · cases hcurrent
    have hportrait := portrait_foldl_apply id c.actions d
    simp only [effect, hrun, count, withTally, hportrait]
    exact .carriedOut hstudent hparse

theorem deals_completeHomework {homework : RecordId} {s : Student} {place : Nat}
    (hs : d.ledgers.roster.get? id = some s)
    (hplace : s.homework.findIdx? (·.id = homework) = some place) :
    (d.ledgers.portrait id).Deals (.complete place)
      (d.effect current (.completeHomework id homework)).answer.reply
      ((d.effect current (.completeHomework id homework)).desk.ledgers.portrait id) := by
  have hstudent : d.ledgers.roster.has id = true := Option.isSome_of_eq_some hs
  have hitem : d.ledgers.roster.hasHomework id homework = true := by
    rw [Roster.hasHomework, hs]
    simp only
    rw [← List.findIdx?_isSome, hplace]
    rfl
  have hlength : place < s.sketch.homework.length := by
    rw [Student.sketch, List.length_map]
    exact (List.findIdx?_eq_some_iff_findIdx_eq.1 hplace).1
  have hportrait := Ledgers.portrait_completeHomework (g := d.ledgers.grades) hs hplace
  simp only [effect, hstudent, hitem, Bool.not_true, Bool.false_eq_true, if_false, withRoster,
    hportrait]
  exact .completed (Ledgers.student_portrait_of_get? hs) hlength

theorem deals_resetStamps (hstudent : d.ledgers.roster.has id = true) :
    (d.ledgers.portrait id).Deals .reset (d.effect current (.resetStamps id)).answer.reply
      ((d.effect current (.resetStamps id)).desk.ledgers.portrait id) := by
  have hsome : (d.ledgers.portrait id).student.isSome := by
    rw [Ledgers.student_portrait]
    exact hstudent
  have hportrait := Ledgers.portrait_resetStamps (g := d.ledgers.grades) (l := d.ledgers) id
  simp only [effect, hstudent, Bool.not_true, Bool.false_eq_true, if_false, withRoster, hportrait]
  exact .reset hsome

/-- Reply and portrait after an operation are those of the dealing that it is. -/
theorem IsDealing.deals {o : Operation} {q : Dealing} (h : d.IsDealing current id o q)
    (hcurrent : current = some id → id ∈ Roster.ids d.ledgers.roster) :
    (d.ledgers.portrait id).Deals q (d.effect current o).answer.reply
      ((d.effect current o).desk.ledgers.portrait id) := by
  cases h with
  | add hname hid hmissing =>
    subst hid
    exact deals_addStudent hname hmissing
  | select hs =>
    simp only [effect, hs]
    exact .selected (Ledgers.student_portrait_of_get? hs)
  | command hselected =>
    have hid := hcurrent hselected
    subst hselected
    exact deals_runCommand hid
  | complete hs hplace => exact deals_completeHomework hs hplace
  | reset hstudent => exact deals_resetStamps hstudent

theorem Change.portrait {o : Operation} {draws : List Draw} {next : Desk κ}
    (h : d.Change current o draws next) (hnone : ∀ q, ¬ d.IsDealing current id o q) :
    next.ledgers.portrait id = d.ledgers.portrait id := by
  cases h with
  | nothing o t => rfl
  | added hname =>
    apply Ledgers.portrait_add_other
    intro hid
    apply eq_true_of_ne_false
    intro hmissing
    exact hnone _ (.add hname hid hmissing)
  | @carriedOut selected input c hcurrent hid hparse =>
    have hne : id ≠ selected := by
      rintro rfl
      exact hnone _ (.command hcurrent)
    exact portrait_foldl_apply_other hne c.actions d
  | @completed owner homework hid hhomework =>
    refine Ledgers.portrait_update_other ?_ ?_
    · intro s
      rfl
    · rintro rfl
      obtain ⟨s, hs⟩ := Option.isSome_iff_exists.1 ((Roster.has_iff _ _).2 hid)
      simp only [Roster.hasHomework, hs] at hhomework
      rw [← List.findIdx?_isSome] at hhomework
      obtain ⟨place, hplace⟩ := Option.isSome_iff_exists.1 hhomework
      exact hnone _ (.complete hs hplace)
  | @reset owner hid =>
    refine Ledgers.portrait_update_other ?_ ?_
    · intro s
      rfl
    · rintro rfl
      exact hnone _ (.reset ((Roster.has_iff _ _).2 hid))

/-! ### The selection -/

theorem current_effect (d : Desk κ) (current : Option StudentId) (o : Operation) :
    (d.effect current o).current = current ∨
      ∃ selected, o = .select selected ∧ d.ledgers.roster.has selected = true ∧
        (d.effect current o).current = some selected := by
  cases o with
  | addStudent name =>
    simp only [effect]
    split
    · exact .inl rfl
    · exact .inl rfl
  | select selected =>
    cases hget : d.ledgers.roster.get? selected with
    | none =>
      simp only [effect, hget]
      exact .inl trivial
    | some s =>
      have hstudent : d.ledgers.roster.has selected = true := Option.isSome_of_eq_some hget
      simp only [effect, hget]
      exact .inr ⟨selected, rfl, hstudent, rfl⟩
  | runCommand input => exact .inl rfl
  | completeHomework owner homework =>
    simp only [effect]
    split
    · exact .inl rfl
    · split
      · exact .inl rfl
      · exact .inl rfl
  | resetStamps owner =>
    simp only [effect]
    split
    · exact .inl rfl
    · exact .inl rfl

theorem IsDealing.current_effect {o : Operation} {q : Dealing} (h : d.IsDealing current id o q) :
    (d.effect current o).current = q.selection id current := by
  cases h with
  | select hs => simp only [effect, hs, Dealing.selection]
  | add | command | complete | reset =>
    obtain hsame | ⟨_, hselect, -⟩ := Desk.current_effect d current _
    · exact hsame
    · cases hselect

theorem current_of_not_isDealing {o : Operation} (hnone : ∀ q, ¬ d.IsDealing current id o q)
    (h : (d.effect current o).current = some id) : current = some id := by
  obtain hsame | ⟨selected, rfl, hstudent, hselected⟩ := d.current_effect current o
  · exact hsame.symm.trans h
  · cases hselected.symm.trans h
    obtain ⟨s, hs⟩ := Option.isSome_iff_exists.1 hstudent
    exact absurd (.select hs) (hnone .select)

end Desk

end Gradebook
