import Gradebook.Proofs.Ledger.Dispatch
import Gradebook.Proofs.Workbook.Operation

/-!
# Effects of operations

What an operation does to the desk and to the selection does not depend on the store: it is the
effect of the operation, which names the collections that are saved afterwards.  The effect never
changes a collection that it does not save, and the counters have no say in it.
-/

namespace Gradebook

/-- What an operation does before it saves: its answer, the desk and the selection after it, and
the collections that it saves then. -/
structure Effect (κ : Type) where
  answer : Answer
  desk : Desk κ
  current : Option StudentId
  saves : List Collection

namespace Desk

variable {κ : Type}

def withRoster (d : Desk κ) (r : Roster) : Desk κ :=
  { d with ledgers := { d.ledgers with roster := r } }

variable [IdClock κ]

/-- The desk after a failure, which is counted. -/
def failed (d : Desk κ) (f : Counted Fault) : Desk κ :=
  d.countFaults f.faults

def effect (d : Desk κ) (current : Option StudentId) : Operation → Effect κ
  | .addStudent name =>
    if Text.trim name = "" then
      let f := Fault.invalidInput "Student name must not be empty"
      ⟨.student (.error f.value), d.failed f, current, []⟩
    else
      let s := Student.new (IdClock.newId d.clock "student").1 (Text.trim name)
      let next := { d with clock := (IdClock.newId d.clock "student").2 }
      ⟨.student (.ok s), next.withRoster (d.ledgers.roster.add s), current, [.students]⟩
  | .select id =>
    match d.ledgers.roster.get? id with
    | some s => ⟨.student (.ok s), d, some id, []⟩
    | none =>
      let f := Fault.studentNotFound id
      ⟨.student (.error f.value), d.failed f, current, []⟩
  | .runCommand input =>
    let (outcome, next) := d.run current input
    ⟨.outcome outcome, next, current, outcome.touched⟩
  | .completeHomework id homework =>
    if !d.ledgers.roster.has id then
      let f := Fault.studentNotFound id
      ⟨.done (.error f.value), d.failed f, current, []⟩
    else if !d.ledgers.roster.hasHomework id homework then
      let f := Fault.homeworkNotFound homework
      ⟨.done (.error f.value), d.failed f, current, []⟩
    else
      ⟨.done (.ok ()), d.withRoster (d.ledgers.roster.completeHomework id homework), current,
        [.students]⟩
  | .resetStamps id =>
    if !d.ledgers.roster.has id then
      let f := Fault.studentNotFound id
      ⟨.done (.error f.value), d.failed f, current, []⟩
    else
      ⟨.done (.ok ()), d.withRoster (d.ledgers.roster.resetStamps id), current, [.students]⟩

end Desk

namespace Workbook

variable {σ κ : Type} [CollectionStore σ] [IdClock κ]

def unsaved (w : Workbook σ κ) (o : Operation) : Workbook σ κ :=
  ⟨(w.desk.effect w.current o).desk, w.store, (w.desk.effect w.current o).current⟩

theorem perform_eq (w : Workbook σ κ) (o : Operation) :
    w.perform o = ((w.desk.effect w.current o).answer,
      (w.unsaved o).persist (w.desk.effect w.current o).saves) := by
  cases o with
  | addStudent name =>
    simp only [perform, addStudent, unsaved, Desk.effect]
    split
    · rfl
    · rfl
  | select id =>
    simp only [perform, select, unsaved, Desk.effect, roster]
    cases w.desk.ledgers.roster.get? id with
    | none => rfl
    | some s => rfl
  | runCommand input => rfl
  | completeHomework id homework =>
    have hroster : w.roster = w.desk.ledgers.roster := rfl
    cases hstudent : w.desk.ledgers.roster.has id with
    | false =>
      simp only [perform, completeHomework, unsaved, Desk.effect, hroster, hstudent, Bool.not_false,
        if_true]
      rfl
    | true =>
      cases hhomework : w.desk.ledgers.roster.hasHomework id homework with
      | false =>
        simp only [perform, completeHomework, unsaved, Desk.effect, hroster, hstudent, hhomework,
          Bool.not_true, Bool.not_false, Bool.false_eq_true, if_true, if_false]
        rfl
      | true =>
        simp only [perform, completeHomework, unsaved, Desk.effect, hroster, hstudent, hhomework,
          Bool.not_true, Bool.false_eq_true, if_false]
        rfl
  | resetStamps id =>
    have hroster : w.roster = w.desk.ledgers.roster := rfl
    cases hstudent : w.desk.ledgers.roster.has id with
    | false =>
      simp only [perform, resetStamps, unsaved, Desk.effect, hroster, hstudent, Bool.not_false,
        if_true]
      rfl
    | true =>
      simp only [perform, resetStamps, unsaved, Desk.effect, hroster, hstudent, Bool.not_true,
        Bool.false_eq_true, if_false]
      rfl

theorem perform_addStudent (w : Workbook σ κ) (name : String) (h : Text.trim name ≠ "") :
    (w.perform (.addStudent name)).2 = (w.unsaved (.addStudent name)).persistOne .students := by
  have hsaves : (w.desk.effect w.current (.addStudent name)).saves = [.students] := by
    simp only [Desk.effect, if_neg h]
  rw [perform_eq, hsaves]
  rfl

end Workbook

/-! ### What an effect can be -/

namespace Desk

variable {κ : Type} [IdClock κ]

/-- The effects there are: a failure, a new student, a selection, a typed line, and a change to one
student that leaves the identity and the log as they are. -/
theorem effect_cases (d : Desk κ) (current : Option StudentId) (o : Operation) :
    (∃ f, (d.effect current o).desk = d.failed f ∧ (d.effect current o).current = current ∧
        (d.effect current o).saves = []) ∨
      (∃ name, (d.effect current o).desk =
          { d with clock := (IdClock.newId d.clock "student").2 }.withRoster
            (d.ledgers.roster.add (.new (IdClock.newId d.clock "student").1 name)) ∧
        (d.effect current o).current = current ∧ (d.effect current o).saves = [.students]) ∨
      (∃ id, d.ledgers.roster.has id = true ∧ (d.effect current o).desk = d ∧
        (d.effect current o).current = some id ∧ (d.effect current o).saves = []) ∨
      (∃ input, (d.effect current o).desk = (d.run current input).2 ∧
        (d.effect current o).current = current ∧
        (d.effect current o).saves = (d.run current input).1.touched) ∨
      ∃ id change, (∀ s : Student, (change s).id = s.id ∧ (change s).logs = s.logs) ∧
        (d.effect current o).desk = d.withRoster (d.ledgers.roster.update id change) ∧
        (d.effect current o).current = current ∧ (d.effect current o).saves = [.students] := by
  cases o with
  | addStudent name =>
    simp only [effect]
    split
    · exact .inl ⟨_, rfl, rfl, rfl⟩
    · exact .inr (.inl ⟨_, rfl, rfl, rfl⟩)
  | select id =>
    simp only [effect]
    cases hget : d.ledgers.roster.get? id with
    | none => exact .inl ⟨_, rfl, rfl, rfl⟩
    | some s =>
      have hstudent : d.ledgers.roster.has id = true := by rw [Roster.has, hget]; rfl
      exact .inr (.inr (.inl ⟨id, hstudent, rfl, rfl, rfl⟩))
  | runCommand input => exact .inr (.inr (.inr (.inl ⟨input, rfl, rfl, rfl⟩)))
  | completeHomework id homework =>
    simp only [effect]
    split
    · exact .inl ⟨_, rfl, rfl, rfl⟩
    · split
      · exact .inl ⟨_, rfl, rfl, rfl⟩
      · refine .inr (.inr (.inr (.inr ⟨id, _, ?_, rfl, rfl, rfl⟩)))
        intro s
        exact ⟨rfl, rfl⟩
  | resetStamps id =>
    simp only [effect]
    split
    · exact .inl ⟨_, rfl, rfl, rfl⟩
    · refine .inr (.inr (.inr (.inr ⟨id, _, ?_, rfl, rfl, rfl⟩)))
      intro s
      exact ⟨rfl, rfl⟩

theorem apply_unsaved (d : Desk κ) (id : StudentId) {a : Action} {c : Collection}
    (h : c ∉ a.touches) :
    Workbook.recordsOf (d.apply id a).ledgers c = Workbook.recordsOf d.ledgers c := by
  cases a <;> cases c <;> first | rfl | simp [Action.touches] at h

theorem foldl_apply_unsaved (id : StudentId) {actions : List Action} {c : Collection} (d : Desk κ)
    (h : ∀ a ∈ actions, c ∉ a.touches) :
    Workbook.recordsOf (actions.foldl (·.apply id) d).ledgers c =
      Workbook.recordsOf d.ledgers c := by
  induction actions generalizing d with
  | nil => rfl
  | cons a actions ih =>
    obtain ⟨ha, hrest⟩ := List.forall_mem_cons.1 h
    rw [List.foldl_cons, ih (d.apply id a) hrest, d.apply_unsaved id ha]

theorem run_unsaved (d : Desk κ) (current : Option StudentId) (input : String) {c : Collection}
    (h : c ∉ (d.run current input).1.touched) :
    Workbook.recordsOf (d.run current input).2.ledgers c = Workbook.recordsOf d.ledgers c := by
  obtain ⟨message, hrun⟩ | ⟨id, command, -, -, -, hrun⟩ := d.run_cases current input
  · rw [hrun]
    rfl
  · rw [hrun] at h ⊢
    apply foldl_apply_unsaved id d
    intro a ha hc
    exact h (command.mem_touches ha hc)

theorem effect_unsaved (d : Desk κ) (current : Option StudentId) (o : Operation) {c : Collection}
    (h : c ∉ (d.effect current o).saves) :
    Workbook.recordsOf (d.effect current o).desk.ledgers c = Workbook.recordsOf d.ledgers c := by
  obtain ⟨f, hdesk, -, -⟩ | ⟨name, hdesk, -, hsaves⟩ | ⟨id, -, hdesk, -, -⟩ |
    ⟨input, hdesk, -, hsaves⟩ | ⟨id, change, -, hdesk, -, hsaves⟩ := d.effect_cases current o
  · rw [hdesk]
    rfl
  · rw [hsaves, List.mem_singleton] at h
    rw [hdesk]
    cases c <;> first | rfl | exact absurd rfl h
  · rw [hdesk]
  · rw [hsaves] at h
    rw [hdesk]
    exact d.run_unsaved current input h
  · rw [hsaves, List.mem_singleton] at h
    rw [hdesk]
    cases c <;> first | rfl | exact absurd rfl h

/-! ### Identities on the roster -/

theorem mem_ids_effect (d : Desk κ) (current : Option StudentId) (o : Operation) {id : StudentId}
    (h : id ∈ Roster.ids d.ledgers.roster) :
    id ∈ Roster.ids (d.effect current o).desk.ledgers.roster := by
  obtain ⟨f, hdesk, -, -⟩ | ⟨name, hdesk, -, -⟩ | ⟨_, -, hdesk, -, -⟩ |
    ⟨input, hdesk, -, -⟩ | ⟨_, change, hchange, hdesk, -, -⟩ := d.effect_cases current o
  · rw [hdesk]
    exact h
  · rw [hdesk]
    simp only [withRoster, Roster.ids_add]
    exact List.mem_append_left _ h
  · rw [hdesk]
    exact h
  · rw [hdesk, ids_run]
    exact h
  · rw [hdesk]
    simp only [withRoster]
    rw [Roster.ids_update _ _ fun s => (hchange s).1]
    exact h

theorem mem_ids_current_effect {d : Desk κ} {current : Option StudentId}
    (h : ∀ id, current = some id → id ∈ Roster.ids d.ledgers.roster) (o : Operation)
    {id : StudentId} (hid : (d.effect current o).current = some id) :
    id ∈ Roster.ids (d.effect current o).desk.ledgers.roster := by
  apply mem_ids_effect
  obtain ⟨_, -, hcurrent, -⟩ | ⟨_, -, hcurrent, -⟩ | ⟨selected, hselected, -, hcurrent, -⟩ |
    ⟨_, -, hcurrent, -⟩ | ⟨_, _, -, -, hcurrent, -⟩ := d.effect_cases current o
  · exact h id (hcurrent ▸ hid)
  · exact h id (hcurrent ▸ hid)
  · rw [hcurrent] at hid
    cases hid
    exact (Roster.has_iff _ _).1 hselected
  · exact h id (hcurrent ▸ hid)
  · exact h id (hcurrent ▸ hid)

/-! ### Counters -/

theorem effect_withTally (d : Desk κ) (t : Tally) (current : Option StudentId) (o : Operation) :
    ∃ u, (d.withTally t).effect current o =
      { d.effect current o with desk := (d.effect current o).desk.withTally u } := by
  have hledgers : (d.withTally t).ledgers = d.ledgers := rfl
  have hclock : (d.withTally t).clock = d.clock := rfl
  cases o with
  | addStudent name =>
    simp only [effect]
    split
    · exact ⟨_, rfl⟩
    · exact ⟨_, rfl⟩
  | select id =>
    simp only [effect, hledgers]
    cases d.ledgers.roster.get? id with
    | none => exact ⟨_, rfl⟩
    | some s => exact ⟨_, rfl⟩
  | runCommand input =>
    obtain ⟨u, hrun⟩ := d.run_withTally t current input
    exact ⟨u, by simp only [effect, hrun]⟩
  | completeHomework id homework =>
    simp only [effect, hledgers]
    split
    · exact ⟨_, rfl⟩
    · split
      · exact ⟨_, rfl⟩
      · exact ⟨_, rfl⟩
  | resetStamps id =>
    simp only [effect, hledgers]
    split
    · exact ⟨_, rfl⟩
    · exact ⟨_, rfl⟩

theorem failedSaves_effect (d : Desk κ) (current : Option StudentId) (o : Operation) :
    (d.effect current o).desk.tally.familyTotal .failedSaves =
      d.tally.familyTotal .failedSaves := by
  obtain ⟨f, hdesk, -, -⟩ | ⟨name, hdesk, -, -⟩ | ⟨id, -, hdesk, -, -⟩ |
    ⟨input, hdesk, -, -⟩ | ⟨id, change, -, hdesk, -, -⟩ := d.effect_cases current o
  · rw [hdesk]
    exact d.tally.familyTotal_countFaults f.faults .failedSaves
  · rw [hdesk]
    rfl
  · rw [hdesk]
  · rw [hdesk]
    obtain ⟨message, hrun⟩ | ⟨id, c, -, -, -, hrun⟩ := d.run_cases current input
    · rw [hrun]
      exact Tally.familyTotal_count d.tally .rejected .failedSaves
    · rw [hrun]
      simp only [count, tally_foldl_apply]
      exact Tally.familyTotal_count d.tally (.applied c.kind) .failedSaves
  · rw [hdesk]
    rfl

end Desk

end Gradebook
