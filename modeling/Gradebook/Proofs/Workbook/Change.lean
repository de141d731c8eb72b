import Gradebook.Proofs.Workbook.Effect
import Gradebook.Proofs.Workbook.Saving

/-!
# Changes of the desk

The desk after an operation, with what the operation draws from the clock: nothing has changed but
the counters, or a student was added, a command was carried out for a student on the roster, or a
student's homework was completed or stamps were reset.
-/

namespace Gradebook

namespace Desk

variable {κ : Type} [IdClock κ]

/-- What an operation draws from the clock. -/
def draws (d : Desk κ) (current : Option StudentId) : Operation → List Draw
  | .addStudent name => if Text.trim name = "" then [] else [.id "student"]
  | .runCommand input =>
    match d.accept current input with
    | .ok c => c.actions.flatMap Action.draws
    | .error _ => []
  | .select _ | .completeHomework .. | .resetStamps _ => []

def withStudent (d : Desk κ) (name : String) : Desk κ :=
  { d with clock := (IdClock.newId d.clock "student").2 }.withRoster
    (d.ledgers.roster.add (.new (IdClock.newId d.clock "student").1 name))

/-- The desk after an operation, with the draws made. -/
inductive Change (d : Desk κ) (current : Option StudentId) :
    Operation → List Draw → Desk κ → Prop
  | nothing (o : Operation) (t : Tally) : Change d current o [] (d.withTally t)
  | added {name : String} (hname : Text.trim name ≠ "") :
    Change d current (.addStudent name) [.id "student"] (d.withStudent (Text.trim name))
  | carriedOut {id : StudentId} {input : String} {c : Command} (hcurrent : current = some id)
      (hid : id ∈ Roster.ids d.ledgers.roster) (hparse : Command.parse input = .ok c) :
    Change d current (.runCommand input) (c.actions.flatMap Action.draws)
      ((c.actions.foldl (·.apply id) d).count (.applied c.kind))
  | completed {id : StudentId} {homework : RecordId} (hid : id ∈ Roster.ids d.ledgers.roster)
      (hhomework : d.ledgers.roster.hasHomework id homework = true) :
    Change d current (.completeHomework id homework) []
      (d.withRoster (d.ledgers.roster.completeHomework id homework))
  | reset {id : StudentId} (hid : id ∈ Roster.ids d.ledgers.roster) :
    Change d current (.resetStamps id) [] (d.withRoster (d.ledgers.roster.resetStamps id))

theorem effect_change (d : Desk κ) (current : Option StudentId) (o : Operation) :
    d.Change current o (d.draws current o) (d.effect current o).desk := by
  cases o with
  | addStudent name =>
    simp only [draws, effect]
    split
    next => exact .nothing _ _
    next hname => exact .added hname
  | select id =>
    simp only [draws, effect]
    cases d.ledgers.roster.get? id with
    | none => exact .nothing _ _
    | some s => exact .nothing _ d.tally
  | runCommand input =>
    simp only [draws, effect]
    obtain ⟨hnone, hrun⟩ | ⟨id, hcurrent, hid, hrun⟩ | ⟨id, e, hcurrent, hid, hparse, hrun⟩ |
      ⟨id, c, hcurrent, hid, hparse, -, hrun⟩ := d.run_spec current input
    · rw [hrun, hnone]
      exact .nothing _ _
    · rw [hrun, hcurrent, accept_unknown hid]
      exact .nothing _ _
    · rw [hrun, hcurrent, accept_known hid, hparse]
      exact .nothing _ _
    · rw [hrun, hcurrent, accept_known hid, hparse]
      exact .carriedOut rfl hid hparse
  | completeHomework id homework =>
    simp only [draws, effect]
    cases hstudent : d.ledgers.roster.has id with
    | false => exact .nothing _ _
    | true =>
      cases hhomework : d.ledgers.roster.hasHomework id homework with
      | false => exact .nothing _ _
      | true => exact .completed ((Roster.has_iff _ id).1 hstudent) hhomework
  | resetStamps id =>
    simp only [draws, effect]
    cases hstudent : d.ledgers.roster.has id with
    | false => exact .nothing _ _
    | true => exact .reset ((Roster.has_iff _ id).1 hstudent)

theorem Change.clock {d next : Desk κ} {current : Option StudentId} {o : Operation}
    {draws : List Draw} (h : d.Change current o draws next) :
    next.clock = IdClock.after d.clock draws := by
  cases h with
  | nothing o t => rfl
  | added hname => rfl
  | carriedOut hcurrent hid hparse => exact clock_foldl_apply _ _ d
  | completed hid hhomework => rfl
  | reset hid => rfl

end Desk

namespace Workbook

variable {σ κ : Type} [CollectionStore σ] [IdClock κ]

def draws (w : Workbook σ κ) : List Operation → List Draw
  | [] => []
  | o :: rest => w.desk.draws w.current o ++ (w.perform o).2.draws rest

theorem ledgers_perform (w : Workbook σ κ) (o : Operation) :
    (w.perform o).2.desk.ledgers = (w.desk.effect w.current o).desk.ledgers :=
  congrArg Memory.ledgers (w.memory_perform o)

theorem clock_perform (w : Workbook σ κ) (o : Operation) :
    (w.perform o).2.desk.clock = IdClock.after w.desk.clock (w.desk.draws w.current o) :=
  (congrArg Memory.clock (w.memory_perform o)).trans (w.desk.effect_change w.current o).clock

theorem current_perform (w : Workbook σ κ) (o : Operation) :
    (w.perform o).2.current = (w.desk.effect w.current o).current :=
  congrArg Memory.current (w.memory_perform o)

end Workbook

end Gradebook
