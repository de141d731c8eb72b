import Gradebook.Proofs.Ledger.Dispatch
import Gradebook.Proofs.Store.Faithful
import Gradebook.Workbook

/-!
# Rejected lines

A typed line is rejected for the first of three reasons.  A line that changes nothing, because it is
rejected or ignored, leaves the ledgers and the clock as they were and saves nothing; any other does
what its command does.  A command that is refused leaves the desk alone.
-/

namespace Gradebook

namespace Command

theorem tone_ne_rejected (c : Command) : c.tone ≠ .rejected := by
  cases c with
  | recordGrade unit question status =>
    intro h
    cases status <;> cases h
  | assignHomework unit range => exact Tone.noConfusion
  | addStamps amount => exact Tone.noConfusion
  | removeStamps amount => exact Tone.noConfusion
  | penalty sheets => exact Tone.noConfusion
  | ignored => exact Tone.noConfusion

theorem tone_eq_ignored_iff (c : Command) : c.tone = .ignored ↔ c = .ignored := by
  constructor
  · intro h
    cases c with
    | recordGrade unit question status => cases status <;> cases h
    | assignHomework unit range => cases h
    | addStamps amount => cases h
    | removeStamps amount => cases h
    | penalty sheets => cases h
    | ignored => rfl
  · rintro rfl
    rfl

theorem touches_eq_nil_iff (c : Command) : c.touches = [] ↔ c = .ignored := by
  constructor
  · intro h
    have hnone : ∀ a ∈ c.actions, a.touches = [] := by
      intro a ha
      apply List.eq_nil_iff_forall_not_mem.2
      intro collection hc
      have hmem := c.mem_touches ha hc
      rw [h] at hmem
      cases hmem
    cases c with
    | recordGrade unit question status => cases hnone _ List.mem_cons_self
    | assignHomework unit range => cases hnone _ List.mem_cons_self
    | addStamps amount => cases hnone _ List.mem_cons_self
    | removeStamps amount => cases hnone _ List.mem_cons_self
    | penalty sheets => cases hnone _ List.mem_cons_self
    | ignored => rfl
  · rintro rfl
    rfl

end Command

theorem run_bind_ok {ε σ α β : Type} {f : ExceptT ε (StateM σ) α} {s t : σ} {x : α}
    (h : f.run.run s = (.ok x, t)) (g : α → ExceptT ε (StateM σ) β) :
    (f >>= g).run.run s = (g x).run.run t := by
  change ExceptT.bindCont g (f.run.run s).1 (f.run.run s).2 = _
  rw [h]
  rfl

theorem run_bind_error {ε σ α β : Type} {f : ExceptT ε (StateM σ) α} {s t : σ} {e : ε}
    (h : f.run.run s = (.error e, t)) (g : α → ExceptT ε (StateM σ) β) :
    (f >>= g).run.run s = (.error e, t) := by
  change ExceptT.bindCont g (f.run.run s).1 (f.run.run s).2 = _
  rw [h]
  rfl

namespace Desk

variable {κ : Type} [IdClock κ]

/-- Carries a command out on the desk at hand, step by step; whatever the answer, the desk is left
as the steps before it have made it. -/
def carryOut (student : Option StudentId) (c : Command) :
    ExceptT Refusal (StateM (Desk κ)) Outcome := do
  let d ← get
  let id ← liftM (d.target student)
  c.actions.forM fun a => modify (·.apply id a)
  modify (·.count (.applied c.kind))
  return c.outcome

theorem run_forM_apply (id : StudentId) (actions : List Action) (d : Desk κ) :
    (actions.forM fun a => modify (·.apply id a) :
      ExceptT Refusal (StateM (Desk κ)) PUnit).run.run d =
        (.ok (), actions.foldl (·.apply id) d) := by
  induction actions generalizing d with
  | nil => rfl
  | cons a actions ih => exact ih (d.apply id a)

theorem run_carryOut (d : Desk κ) (student : Option StudentId) (c : Command) :
    (carryOut student c).run.run d =
      match d.target student with
      | .error r => (.error r, d)
      | .ok id => (.ok c.outcome, (c.actions.foldl (·.apply id) d).count (.applied c.kind)) := by
  have hget : (get : ExceptT Refusal (StateM (Desk κ)) (Desk κ)).run.run d = (.ok d, d) := rfl
  have hfind : (liftM (d.target student) : ExceptT Refusal (StateM (Desk κ)) StudentId).run.run d =
      (d.target student, d) := rfl
  unfold carryOut
  rw [run_bind_ok hget]
  cases htarget : d.target student with
  | error r =>
    rw [htarget] at hfind
    exact run_bind_error hfind _
  | ok id =>
    rw [htarget] at hfind
    rw [run_bind_ok hfind, run_bind_ok (run_forM_apply id c.actions d)]
    rfl

/-- Carrying a command out answers what it answers in place, with the desk that is left then. -/
theorem execute_eq (d : Desk κ) (student : Option StudentId) (c : Command) :
    d.execute student c =
      match (carryOut student c).run.run d with
      | (.error r, _) => .error r
      | (.ok outcome, next) => .ok (outcome, next) := by
  rw [run_carryOut, execute]
  cases d.target student with
  | error r => rfl
  | ok id => rfl

theorem carryOut_refused {d : Desk κ} {student : Option StudentId} {c : Command} {r : Refusal}
    (h : ((carryOut student c).run.run d).1 = .error r) :
    ((carryOut student c).run.run d).2 = d := by
  rw [run_carryOut] at h ⊢
  cases htarget : d.target student with
  | error r => rfl
  | ok id =>
    rw [htarget] at h
    cases h

theorem mutated_rejection (message : String) : (Outcome.rejection message).mutated = false := rfl

theorem mutated_outcome (c : Command) : c.outcome.mutated = false ↔ c = .ignored := by
  rw [← c.touches_eq_nil_iff, Outcome.mutated, Bool.not_eq_false', List.isEmpty_iff]
  rfl

theorem run_rejected_iff (d : Desk κ) (student : Option StudentId) (input : String) :
    (d.run student input).1.tone = .rejected ↔
      student = none ∨ (∃ id, student = some id ∧ id ∉ Roster.ids d.ledgers.roster) ∨
        ∃ e, Command.parse input = .error e := by
  obtain ⟨hnone, hrun⟩ | ⟨id, hid, hnot, hrun⟩ | ⟨id, e, hid, -, hparse, hrun⟩ |
    ⟨id, c, hid, hmem, hparse, -, hrun⟩ := d.run_spec student input
  · rw [hrun]
    exact iff_of_true rfl (.inl hnone)
  · rw [hrun]
    exact iff_of_true rfl (.inr (.inl ⟨id, hid, hnot⟩))
  · rw [hrun]
    exact iff_of_true rfl (.inr (.inr ⟨e, hparse⟩))
  · rw [hrun]
    apply iff_of_false c.tone_ne_rejected
    rintro (hnone | ⟨id', hid', hnot⟩ | ⟨e, he⟩)
    · rw [hid] at hnone
      cases hnone
    · rw [hid] at hid'
      cases hid'
      exact hnot hmem
    · rw [hparse] at he
      cases he

theorem run_mutated_iff (d : Desk κ) (student : Option StudentId) (input : String) :
    (d.run student input).1.mutated = false ↔
      (d.run student input).1.tone = .rejected ∨ (d.run student input).1.tone = .ignored := by
  obtain ⟨message, hrun⟩ | ⟨id, c, -, -, -, hrun⟩ := d.run_cases student input
  · rw [hrun]
    exact iff_of_true (mutated_rejection message) (.inl rfl)
  · rw [hrun]
    refine (mutated_outcome c).trans (c.tone_eq_ignored_iff.symm.trans ?_)
    exact (or_iff_right c.tone_ne_rejected).symm

/-- A line that changes no collection is at most counted. -/
theorem run_unchanged {d : Desk κ} {student : Option StudentId} {input : String}
    (h : (d.run student input).1.mutated = false) :
    ∃ counter, (d.run student input).2 = d.count counter := by
  obtain ⟨message, hrun⟩ | ⟨id, c, -, -, -, hrun⟩ := d.run_cases student input
  · rw [hrun]
    exact ⟨_, rfl⟩
  · rw [hrun] at h ⊢
    have hignored := (mutated_outcome c).1 h
    subst hignored
    exact ⟨_, rfl⟩

end Desk

theorem Workbook.store_runCommand {σ κ : Type} [CollectionStore σ] [IdClock κ] {w : Workbook σ κ}
    {input : String} (h : (w.desk.run w.current input).1.mutated = false) :
    (w.runCommand input).2.store = w.store := by
  have hnothing : (w.desk.run w.current input).1.touched = [] := by
    rw [Outcome.mutated, Bool.not_eq_false', List.isEmpty_iff] at h
    exact h
  unfold runCommand
  simp only [hnothing]
  rfl

/-- What holds of a typed line for a student.  The clock is any clock, so also one that keeps count
of what is drawn from it, and the store keeps every attempt to save. -/
structure Desk.RunsAtomically {κ : Type} [IdClock κ] (d : Desk κ) (student : Option StudentId)
    (input : String) : Prop where
  rejected_iff : (d.run student input).1.tone = .rejected ↔
    student = none ∨ (∃ id, student = some id ∧ id ∉ Roster.ids d.ledgers.roster) ∨
      ∃ e, Command.parse input = .error e
  unselected : student = none →
    (d.run student input).1 = .rejection Refusal.noStudentSelected.message
  unknown : ∀ id, student = some id → id ∉ Roster.ids d.ledgers.roster →
    (d.run student input).1 = .rejection (Refusal.studentNotFound id).message
  unread : ∀ id e, student = some id → id ∈ Roster.ids d.ledgers.roster →
    Command.parse input = .error e → (d.run student input).1 = .rejection e.message
  mutated_iff : (d.run student input).1.mutated = false ↔
    (d.run student input).1.tone = .rejected ∨ (d.run student input).1.tone = .ignored
  unchanged : (d.run student input).1.mutated = false →
    (d.run student input).2.ledgers = d.ledgers ∧ (d.run student input).2.clock = d.clock
  unsaved : (d.run student input).1.mutated = false →
    ∀ {σ : Type} [CollectionStore σ] (store : Unreliable σ),
      ((Workbook.mk d store student).runCommand input).2.store = store
  executed : (d.run student input).1.tone ≠ .rejected →
    ∃ c, Command.parse input = .ok c ∧ d.execute student c = .ok (d.run student input)

/-- A typed line is rejected for the first reason that applies, with its message, and leaves ledgers,
clock and store alone unless it changes something; otherwise it is carried out as its command.  A
command that is refused leaves the ledgers and the clock alone. -/
theorem rejection_is_atomic {κ : Type} [IdClock κ] (d : Desk κ) (student : Option StudentId) :
    (∀ input, d.RunsAtomically student input) ∧
      ∀ c : Command,
        (d.execute student c =
          match (Desk.carryOut student c).run.run d with
          | (.error r, _) => .error r
          | (.ok outcome, next) => .ok (outcome, next)) ∧
        ∀ r, ((Desk.carryOut student c).run.run d).1 = .error r →
          ((Desk.carryOut student c).run.run d).2.ledgers = d.ledgers ∧
            ((Desk.carryOut student c).run.run d).2.clock = d.clock := by
  refine ⟨?_, ?_⟩
  · intro input
    refine ⟨d.run_rejected_iff student input, ?_, ?_, ?_, d.run_mutated_iff student input, ?_, ?_, ?_⟩
    · rintro rfl
      exact congrArg Prod.fst (Desk.run_of_accept_error rfl)
    · rintro id rfl hid
      exact congrArg Prod.fst (Desk.run_of_accept_error (Desk.accept_unknown hid input))
    · rintro id e rfl hid hparse
      have haccept := Desk.accept_known hid input
      rw [hparse] at haccept
      exact congrArg Prod.fst (Desk.run_of_accept_error haccept)
    · intro h
      obtain ⟨counter, hrun⟩ := Desk.run_unchanged h
      rw [hrun]
      exact ⟨rfl, rfl⟩
    · intro h σ _ store
      exact Workbook.store_runCommand (w := ⟨d, store, student⟩) h
    · intro h
      rw [Ne, d.run_rejected_iff] at h
      obtain ⟨hnone, -⟩ | ⟨id, hid, hnot, -⟩ | ⟨_, e, -, -, hparse, -⟩ |
        ⟨_, c, -, -, hparse, hexecute, -⟩ := d.run_spec student input
      · exact absurd (.inl hnone) h
      · exact absurd (.inr (.inl ⟨id, hid, hnot⟩)) h
      · exact absurd (.inr (.inr ⟨e, hparse⟩)) h
      · exact ⟨c, hparse, hexecute⟩
  · intro c
    refine ⟨d.execute_eq student c, ?_⟩
    intro r h
    rw [Desk.carryOut_refused h]
    exact ⟨rfl, rfl⟩

end Gradebook
