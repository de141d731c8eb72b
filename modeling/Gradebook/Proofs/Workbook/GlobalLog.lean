import Gradebook.Proofs.Ledger.Mirror
import Gradebook.Proofs.Workbook.Saving
import Gradebook.Store.Memory

/-!
# The global log along a run

Over a store that is empty at opening, and with a clock that does not repeat its identities during
the run, the log of all students mirrors the logs of the students after every run of operations.
The identities on the roster are among those drawn, so that a new student's is new to the roster.
-/

namespace Gradebook

/-- Ledgers that mirror, with a roster whose identities are among the first ones drawn from a clock,
of which there are at most `n`. -/
structure Accounted {κ : Type} [IdClock κ] (first : κ) (n : Nat) (l : Ledgers) (clock : κ) :
    Prop where
  mirrors : l.Mirrors
  drawn : ∃ draws, clock = IdClock.after first draws ∧ (IdClock.ids first draws).length ≤ n ∧
    ∀ id ∈ Roster.ids l.roster, id ∈ IdClock.ids first draws

namespace Accounted

variable {κ : Type} [IdClock κ] {first : κ} {n : Nat} {l : Ledgers} {clock : κ}

theorem empty (first : κ) : Accounted first 0 .empty first where
  mirrors := .empty
  drawn := by
    refine ⟨[], rfl, Nat.le_refl 0, ?_⟩
    intro id hid
    cases hid

theorem draw {m : Nat} {next : Ledgers} {after : κ} (h : Accounted first n l clock)
    (hmirrors : next.Mirrors) (hids : Roster.ids next.roster = Roster.ids l.roster)
    (hdrawn : ∃ draws, after = IdClock.after clock draws ∧ (IdClock.ids clock draws).length ≤ m) :
    Accounted first (n + m) next after where
  mirrors := hmirrors
  drawn := by
    obtain ⟨draws, hclock, hlength, hroster⟩ := h.drawn
    obtain ⟨more, hafter, hmore⟩ := hdrawn
    rw [hclock] at hafter hmore
    refine ⟨draws ++ more, ?_, ?_, ?_⟩
    · rw [hafter, IdClock.after_append]
    · rw [IdClock.ids_append, List.length_append]
      omega
    · intro id hid
      rw [hids] at hid
      rw [IdClock.ids_append]
      exact List.mem_append_left _ (hroster id hid)

theorem mono {m : Nat} (h : Accounted first n l clock) (hm : n ≤ m) :
    Accounted first m l clock where
  mirrors := h.mirrors
  drawn := by
    obtain ⟨draws, hclock, hlength, hroster⟩ := h.drawn
    exact ⟨draws, hclock, Nat.le_trans hlength hm, hroster⟩

theorem add {m : Nat} (hfirst : IdClock.DrawsDistinct first m) (hm : n < m)
    (h : Accounted first n l clock) (family name : String) :
    Accounted first (n + 1)
      { l with roster := l.roster.add (.new (IdClock.newId clock family).1 name) }
      (IdClock.newId clock family).2 := by
  obtain ⟨draws, hclock, hlength, hroster⟩ := h.drawn
  -- the identity drawn next differs from those drawn before, and so from those on the roster
  have hfresh := hfirst.fresh (Nat.lt_of_le_of_lt hlength hm) family
  rw [← hclock] at hfresh
  have hids : IdClock.ids first (draws ++ [.id family]) =
      IdClock.ids first draws ++ [(IdClock.newId clock family).1] := by
    rw [IdClock.ids_append, ← hclock]
    rfl
  refine ⟨h.mirrors.add (fun hid => hfresh (hroster _ hid)) name, draws ++ [.id family], ?_, ?_, ?_⟩
  · rw [IdClock.after_append, ← hclock]
    rfl
  · rw [hids, List.length_append, List.length_singleton]
    omega
  · intro id hid
    rw [Roster.ids_add] at hid
    rw [hids]
    rcases List.mem_append.1 hid with hold | hnew
    · exact List.mem_append_left _ (hroster id hold)
    · exact List.mem_append_right _ hnew

theorem run {d : Desk κ} (h : Accounted first n d.ledgers d.clock) (current : Option StudentId)
    (input : String) :
    Accounted first (n + 2) (d.run current input).2.ledgers (d.run current input).2.clock := by
  obtain ⟨message, hrun⟩ | ⟨id, c, -, hstudent, -, hrun⟩ := d.run_cases current input
  · rw [hrun]
    exact h.mono (Nat.le_add_right n 2)
  · rw [hrun]
    have hid := (Roster.has_iff _ id).1 hstudent
    have hlength := Nat.le_trans (Action.length_ids_draws_le c.actions d.clock) c.length_actions_le
    exact h.draw (Desk.mirrors_foldl_apply c.actions h.mirrors hid)
      (Desk.ids_foldl_apply id c.actions d) ⟨_, Desk.clock_foldl_apply id c.actions d, hlength⟩

theorem effect {m : Nat} (hfirst : IdClock.DrawsDistinct first m) (hm : n < m) {d : Desk κ}
    (h : Accounted first n d.ledgers d.clock) (current : Option StudentId) (o : Operation) :
    Accounted first (n + 2) (d.effect current o).desk.ledgers (d.effect current o).desk.clock := by
  obtain ⟨f, hdesk, -, -⟩ | ⟨name, hdesk, -, -⟩ | ⟨id, -, hdesk, -, -⟩ | ⟨input, hdesk, -, -⟩ |
    ⟨id, change, hchange, hdesk, -, -⟩ := d.effect_cases current o
  · rw [hdesk]
    exact h.mono (Nat.le_add_right n 2)
  · rw [hdesk]
    exact (h.add hfirst hm "student" name).mono (Nat.add_le_add_left (by decide) n)
  · rw [hdesk]
    exact h.mono (Nat.le_add_right n 2)
  · rw [hdesk]
    exact h.run current input
  · rw [hdesk]
    exact h.draw (h.mirrors.update id hchange) (Roster.ids_update _ _ fun s => (hchange s).1)
      ⟨[], rfl, Nat.zero_le 2⟩

end Accounted

namespace Workbook

variable {σ κ : Type} [CollectionStore σ] [IdClock κ]

theorem accounted_after {first : κ} (ops : List Operation) {n m : Nat} {w : Workbook σ κ}
    (hfirst : IdClock.DrawsDistinct first m) (hm : n + 2 * ops.length ≤ m)
    (h : Accounted first n w.desk.ledgers w.desk.clock) :
    Accounted first (n + 2 * ops.length) (w.after ops).desk.ledgers (w.after ops).desk.clock := by
  induction ops generalizing n w with
  | nil => exact h
  | cons o ops ih =>
    rw [List.length_cons] at hm ⊢
    have hmemory := w.memory_perform o
    have hledgers := congrArg Memory.ledgers hmemory
    have hclock := congrArg Memory.clock hmemory
    simp only [memory] at hledgers hclock
    -- one more identity than drawn so far is enough for an operation that adds a student
    have hstep := h.effect hfirst (by omega) w.current o
    rw [← hledgers, ← hclock] at hstep
    have hrest := ih (by omega) hstep
    rw [show n + 2 * (ops.length + 1) = n + 2 + 2 * ops.length by omega]
    exact hrest

end Workbook

/-- From an empty store, with a clock that repeats no identity during the run, every run ends with
the entries of each student in the log of all students being the student's log, and with every grade
and reward naming a student; so the answers with a status and the counts of the summary can be taken
from either log. -/
theorem grades_mirror_logs {σ κ : Type} [CollectionStore σ] [IdClock κ] {store : σ} {clock : κ}
    (hstore : ∀ c, CollectionStore.load store c = .ok []) (ops : List Operation)
    (hclock : IdClock.DrawsDistinct clock (2 * ops.length)) (tally : Tally) :
    ∃ w : Workbook σ κ, Workbook.open store clock tally = .ok w ∧
      (∀ s ∈ (w.after ops).roster,
        (w.after ops).ledgers.gradesOf s.id = s.logs ∧
        (∀ status, (w.after ops).ledgers.gradesWith s.id status = s.answersWith status) ∧
        ((w.after ops).ledgers.summary s).wrongAnswers =
          ((w.after ops).ledgers.gradesWith s.id .incorrect).length ∧
        ((w.after ops).ledgers.summary s).partialAnswers =
          ((w.after ops).ledgers.gradesWith s.id .partly).length) ∧
      (∀ e ∈ (w.after ops).ledgers.grades, ∃ s ∈ (w.after ops).roster, s.id = e.studentId) ∧
      ∀ e ∈ (w.after ops).ledgers.rewards, ∃ s ∈ (w.after ops).roster, s.id = e.studentId := by
  have hload : ∀ c, CollectionStore.load store c = .ok (Workbook.recordsOf .empty c) := by
    intro c
    rw [hstore c]
    cases c <;> rfl
  obtain ⟨counted, hopen⟩ := Workbook.open_loaded hload clock tally
  refine ⟨_, hopen, ?_⟩
  have hafter := Workbook.accounted_after ops hclock (by omega)
    (w := (⟨⟨.empty, clock, counted⟩, store, none⟩ : Workbook σ κ)) (.empty clock)
  have hmirrors := hafter.mirrors
  refine ⟨?_, ?_, ?_⟩
  · intro s hs
    refine ⟨hmirrors.logs s hs, fun status => hmirrors.gradesWith hs status, ?_, ?_⟩
    · exact congrArg List.length (hmirrors.gradesWith hs .incorrect).symm
    · exact congrArg List.length (hmirrors.gradesWith hs .partly).symm
  · intro e he
    exact List.mem_map.1 (hmirrors.grades e he)
  · intro e he
    exact List.mem_map.1 (hmirrors.rewards e he)

theorem grades_mirror_logs_of_one_student :
    let ops : List Operation :=
      [.addStudent "Kim", .select "student-1", .runCommand "algebra 12 X"]
    IdClock.DrawsDistinct (SequentialClock.new .epoch 0) (2 * ops.length) ∧
      ∃ w : Workbook MemoryStore SequentialClock,
        Workbook.open .empty (SequentialClock.new .epoch 0) .empty = .ok w ∧
          ∀ s ∈ (w.after ops).roster, (w.after ops).ledgers.gradesOf s.id = s.logs := by
  intro ops
  have hclock : IdClock.DrawsDistinct (SequentialClock.new .epoch 0) (2 * ops.length) :=
    SequentialClock.drawsDistinct (by decide)
  have hempty : ∀ c, CollectionStore.load MemoryStore.empty c = .ok [] := fun c => rfl
  obtain ⟨w, hopen, hlogs, -⟩ := grades_mirror_logs hempty ops hclock .empty
  exact ⟨hclock, w, hopen, fun s hs => (hlogs s hs).1⟩

end Gradebook
