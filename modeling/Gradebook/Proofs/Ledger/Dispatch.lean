import Gradebook.Ledger.Dispatch
import Gradebook.Proofs.Clock
import Gradebook.Proofs.Ledger.Roster

/-!
# Steps, commands and typed lines

What a step on the desk does to the roster, the clock and the counters, and from it what a command
and a typed line do.
-/

namespace Gradebook

theorem mem_touch {c : Collection} (more : List Collection) (listed : List Collection) :
    c ∈ touch listed more ↔ c ∈ listed ∨ c ∈ more := by
  induction more generalizing listed with
  | nil => simp [touch]
  | cons d more ih =>
    have hcons : touch listed (d :: more) =
        touch (if d ∈ listed then listed else listed ++ [d]) more := rfl
    rw [hcons, ih]
    by_cases hd : d ∈ listed
    · rw [if_pos hd, List.mem_cons]
      constructor
      · rintro (h | h)
        · exact .inl h
        · exact .inr (.inr h)
      · rintro (h | rfl | h)
        · exact .inl h
        · exact .inl hd
        · exact .inr h
    · rw [if_neg hd, List.mem_append, List.mem_singleton, List.mem_cons, or_assoc]

theorem Command.mem_touches (command : Command) {c : Collection} {a : Action}
    (ha : a ∈ command.actions) (hc : c ∈ a.touches) : c ∈ command.touches := by
  rw [Command.touches, mem_touch]
  exact .inr (List.mem_flatMap.2 ⟨a, ha, hc⟩)

theorem Command.length_actions_le (c : Command) : c.actions.length ≤ 2 := by
  cases c <;> simp [Command.actions]

/-- What a step draws from the clock. -/
def Action.draws : Action → List Draw
  | recordGrade .. => [.id "log", .time]
  | assignHomework .. => [.id "homework", .time]
  | adjustStamps _ => []
  | recordReward kind _ => [.id kind.name, .time]

theorem Action.length_ids_draws_le {κ : Type} [IdClock κ] (actions : List Action) (k : κ) :
    (IdClock.ids k (actions.flatMap Action.draws)).length ≤ actions.length := by
  induction actions generalizing k with
  | nil => exact Nat.le_refl 0
  | cons a actions ih =>
    have hrest := ih (IdClock.after k a.draws)
    have hone : (IdClock.ids k a.draws).length ≤ 1 := by
      cases a with
      | recordGrade unit question status => exact Nat.le_refl 1
      | assignHomework unit range => exact Nat.le_refl 1
      | adjustStamps delta => exact Nat.zero_le 1
      | recordReward kind value => exact Nat.le_refl 1
    rw [List.flatMap_cons, IdClock.ids_append, List.length_append, List.length_cons]
    omega

namespace Desk

variable {κ : Type} [IdClock κ]

omit [IdClock κ] in
theorem accept_unknown {d : Desk κ} {id : StudentId} (h : id ∉ Roster.ids d.ledgers.roster)
    (input : String) :
    d.accept (some id) input = .error (Refusal.studentNotFound id).message := by
  rw [← Roster.has_iff, Bool.not_eq_true] at h
  simp only [accept, target, h, Bool.false_eq_true, if_false]

omit [IdClock κ] in
theorem accept_known {d : Desk κ} {id : StudentId} (h : id ∈ Roster.ids d.ledgers.roster)
    (input : String) :
    d.accept (some id) input = (Command.parse input).mapError CommandError.message := by
  rw [← Roster.has_iff] at h
  simp only [accept, target, h, if_true]

theorem run_of_accept_error {d : Desk κ} {current : Option StudentId} {input message : String}
    (h : d.accept current input = .error message) :
    d.run current input = (.rejection message, d.count .rejected) := by
  unfold run
  rw [h]

theorem execute_known {d : Desk κ} {id : StudentId} (h : id ∈ Roster.ids d.ledgers.roster)
    (c : Command) :
    d.execute (some id) c =
      .ok (c.outcome, (c.actions.foldl (·.apply id) d).count (.applied c.kind)) := by
  rw [← Roster.has_iff] at h
  simp only [execute, target, h, if_true]

/-- The first reason to reject a typed line decides; where there is none, its command is carried
out. -/
theorem run_spec (d : Desk κ) (current : Option StudentId) (input : String) :
    (current = none ∧
        d.run current input = (.rejection Refusal.noStudentSelected.message, d.count .rejected)) ∨
      (∃ id, current = some id ∧ id ∉ Roster.ids d.ledgers.roster ∧ d.run current input =
        (.rejection (Refusal.studentNotFound id).message, d.count .rejected)) ∨
      (∃ id e, current = some id ∧ id ∈ Roster.ids d.ledgers.roster ∧
        Command.parse input = .error e ∧
        d.run current input = (.rejection e.message, d.count .rejected)) ∨
      ∃ id c, current = some id ∧ id ∈ Roster.ids d.ledgers.roster ∧ Command.parse input = .ok c ∧
        d.execute current c = .ok (d.run current input) ∧
        d.run current input =
          (c.outcome, (c.actions.foldl (·.apply id) d).count (.applied c.kind)) := by
  cases current with
  | none => exact .inl ⟨rfl, run_of_accept_error rfl⟩
  | some id =>
    by_cases hid : id ∈ Roster.ids d.ledgers.roster
    · have haccept := accept_known hid input
      cases hparse : Command.parse input with
      | error e =>
        rw [hparse] at haccept
        exact .inr (.inr (.inl ⟨id, e, rfl, hid, rfl, run_of_accept_error haccept⟩))
      | ok c =>
        have haccepted : d.accept (some id) input = .ok c := by
          rw [haccept, hparse]
          rfl
        have hexecute := execute_known hid c
        have hrun : d.run (some id) input =
            (c.outcome, (c.actions.foldl (·.apply id) d).count (.applied c.kind)) := by
          unfold run
          rw [haccepted]
          simp only [hexecute]
        exact .inr (.inr (.inr ⟨id, c, rfl, hid, rfl, hrun ▸ hexecute, hrun⟩))
    · exact .inr (.inl ⟨id, rfl, hid, run_of_accept_error (accept_unknown hid input)⟩)

/-- A typed line is rejected, or a command is carried out for the selected student. -/
theorem run_cases (d : Desk κ) (current : Option StudentId) (input : String) :
    (∃ message, d.run current input = (.rejection message, d.count .rejected)) ∨
      ∃ id c, current = some id ∧ d.ledgers.roster.has id = true ∧ Command.parse input = .ok c ∧
        d.run current input =
          (c.outcome, (c.actions.foldl (·.apply id) d).count (.applied c.kind)) := by
  obtain ⟨-, hrun⟩ | ⟨_, -, -, hrun⟩ | ⟨_, _, -, -, -, hrun⟩ |
    ⟨id, c, hcurrent, hid, hparse, -, hrun⟩ := d.run_spec current input
  · exact .inl ⟨_, hrun⟩
  · exact .inl ⟨_, hrun⟩
  · exact .inl ⟨_, hrun⟩
  · exact .inr ⟨id, c, hcurrent, (Roster.has_iff _ id).2 hid, hparse, hrun⟩

theorem ids_apply (d : Desk κ) (id : StudentId) (a : Action) :
    Roster.ids (d.apply id a).ledgers.roster = Roster.ids d.ledgers.roster := by
  cases a with
  | recordGrade unit question status => exact Roster.ids_update _ _ fun s => rfl
  | assignHomework unit range => exact Roster.ids_update _ _ fun s => rfl
  | adjustStamps delta => exact Roster.ids_update _ _ fun s => rfl
  | recordReward kind value => rfl

theorem ids_foldl_apply (id : StudentId) (actions : List Action) (d : Desk κ) :
    Roster.ids (actions.foldl (·.apply id) d).ledgers.roster = Roster.ids d.ledgers.roster := by
  induction actions generalizing d with
  | nil => rfl
  | cons a actions ih => rw [List.foldl_cons, ih, ids_apply]

theorem ids_run (d : Desk κ) (current : Option StudentId) (input : String) :
    Roster.ids (d.run current input).2.ledgers.roster = Roster.ids d.ledgers.roster := by
  obtain ⟨message, hrun⟩ | ⟨id, c, -, -, -, hrun⟩ := d.run_cases current input
  · rw [hrun]
    rfl
  · rw [hrun]
    exact ids_foldl_apply id c.actions d

theorem clock_apply (d : Desk κ) (id : StudentId) (a : Action) :
    (d.apply id a).clock = IdClock.after d.clock a.draws := by
  cases a <;> rfl

theorem clock_foldl_apply (id : StudentId) (actions : List Action) (d : Desk κ) :
    (actions.foldl (·.apply id) d).clock =
      IdClock.after d.clock (actions.flatMap Action.draws) := by
  induction actions generalizing d with
  | nil => rfl
  | cons a actions ih =>
    rw [List.foldl_cons, ih, clock_apply, List.flatMap_cons, IdClock.after_append]

theorem tally_foldl_apply (id : StudentId) (actions : List Action) (d : Desk κ) :
    (actions.foldl (·.apply id) d).tally = d.tally := by
  induction actions generalizing d with
  | nil => rfl
  | cons a actions ih =>
    have hstep : (d.apply id a).tally = d.tally := by
      cases a <;> rfl
    rw [List.foldl_cons, ih, hstep]

theorem foldl_apply_withTally (id : StudentId) (t : Tally) (actions : List Action) (d : Desk κ) :
    actions.foldl (·.apply id) (d.withTally t) = (actions.foldl (·.apply id) d).withTally t := by
  induction actions generalizing d with
  | nil => rfl
  | cons a actions ih =>
    have hstep : (d.withTally t).apply id a = (d.apply id a).withTally t := by
      cases a <;> rfl
    rw [List.foldl_cons, List.foldl_cons, hstep, ih]

theorem run_withTally (d : Desk κ) (t : Tally) (current : Option StudentId) (input : String) :
    ∃ u, (d.withTally t).run current input =
      ((d.run current input).1, (d.run current input).2.withTally u) := by
  have htarget : (d.withTally t).target current = d.target current := rfl
  unfold run accept execute
  rw [htarget]
  cases d.target current with
  | error r => exact ⟨t.count .rejected, rfl⟩
  | ok id =>
    cases hparse : Command.parse input with
    | error e => exact ⟨t.count .rejected, rfl⟩
    | ok c =>
      refine ⟨t.count (.applied c.kind), ?_⟩
      change (c.outcome, (c.actions.foldl (·.apply id) (d.withTally t)).count _) = _
      rw [foldl_apply_withTally]
      rfl

end Desk

end Gradebook
