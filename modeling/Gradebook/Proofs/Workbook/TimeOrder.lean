import Gradebook.Proofs.Ledger.Dates
import Gradebook.Proofs.Workbook.Identity

/-!
# The order of records is the order of time

From an empty store the dates along every list are readings of the clock in the order in which they
were drawn: in memory and in the store, whichever saves fail, and so also after a reopening, which
takes up the lists of the store again.  The readings of a sequential clock that does not step
backwards are in the order of time.
-/

namespace Gradebook

namespace Workbook

variable {σ κ : Type} [CollectionStore σ]

/-- A workbook over a store in order, where all lists in memory and in the store are dated by some
of the times, in their order. -/
structure Dated (InOrder : σ → Prop) (times : List Time.Instant) (w : Workbook σ κ) : Prop where
  memory : w.desk.ledgers.DatedBy times
  inOrder : InOrder w.store
  stored : ∀ c, ∃ records, CollectionStore.load w.store c = .ok records ∧ c.DatedBy times records

namespace Dated

variable {InOrder : σ → Prop} {times : List Time.Instant} {w : Workbook σ κ}

theorem persist (hσ : SavesFaithfully σ InOrder) (cs : List Collection)
    (h : Dated InOrder times w) : Dated InOrder times (w.persist cs) := by
  have hledgers : (w.persist cs).desk.ledgers = w.desk.ledgers :=
    congrArg Memory.ledgers (memory_persist cs w)
  obtain ⟨hin, hload⟩ := load_persist hσ cs h.inOrder
  refine ⟨hledgers ▸ h.memory, hin, ?_⟩
  intro c
  rcases hload c with hsaved | hkept
  · exact ⟨w.records c, hsaved, h.memory c⟩
  · rw [hkept]
    exact h.stored c

/-- A reopening finds lists of the store in memory, which are as well dated. -/
theorem reopen (h : Dated InOrder times w) : Dated InOrder times w.reopen.2 := by
  obtain ⟨f, hreopen⟩ | ⟨l, hreopen, hload⟩ := w.reopen_cases
  · rw [hreopen]
    exact ⟨h.memory, h.inOrder, h.stored⟩
  · have hmemory : l.DatedBy times := by
      intro c
      obtain ⟨records, hstored, hdated⟩ := h.stored c
      rw [hload c] at hstored
      cases hstored
      exact hdated
    rw [hreopen]
    exact ⟨hmemory, h.inOrder, h.stored⟩

end Dated

end Workbook

variable {σ κ : Type} [CollectionStore σ] [IdClock κ]

omit [CollectionStore σ] in
theorem Desk.Change.datedBy {d next : Desk κ} {current : Option StudentId} {o : Operation}
    {draws : List Draw} {times : List Time.Instant} (h : d.Change current o draws next)
    (hdated : d.ledgers.DatedBy times) :
    next.ledgers.DatedBy (times ++ IdClock.times d.clock draws) := by
  cases h with
  | nothing o t => exact hdated.later _
  | added hname => exact (hdated.add _ _).later _
  | carriedOut hcurrent hid hparse => exact datedBy_foldl_apply _ _ hdated
  | completed hid hhomework =>
    rw [IdClock.times, List.append_nil]
    refine hdated.update _ fun s => ⟨rfl, ?_⟩
    exact map_updateFirst _ (g := fun item => item.assignedAt) Homework.assignedAt_complete
      s.homework
  | reset hid =>
    rw [IdClock.times, List.append_nil]
    exact hdated.update _ fun s => ⟨rfl, rfl⟩

namespace Workbook

variable {InOrder : σ → Prop} {times : List Time.Instant} {w : Workbook σ κ}

theorem Dated.perform (hσ : SavesFaithfully σ InOrder) (h : Dated InOrder times w) (o : Operation) :
    Dated InOrder (times ++ IdClock.times w.desk.clock (w.desk.draws w.current o))
      (w.perform o).2 := by
  rw [perform_eq]
  apply Dated.persist hσ
  refine ⟨(w.desk.effect_change w.current o).datedBy h.memory, h.inOrder, ?_⟩
  intro c
  obtain ⟨records, hload, hdated⟩ := h.stored c
  exact ⟨records, hload, hdated.later _⟩

theorem Dated.afterMoves (hσ : SavesFaithfully σ InOrder) (moves : List Move)
    (h : Dated InOrder times w) :
    Dated InOrder (times ++ IdClock.times w.desk.clock (w.drawsOfMoves moves))
      (w.afterMoves moves) :=
  keeps_afterMoves (P := Dated InOrder) (fun _ => rfl)
    (fun clock draws more => IdClock.times_append draws more clock)
    (fun o hdated => hdated.perform hσ o) Dated.reopen moves h

end Workbook

/-- A store from which every run, with reopenings in it, leaves ledgers in the order of time, as
long as the clock does not step backwards and can be read as often as the run reads it. -/
def KeepsTimeOrder {σ : Type} [CollectionStore σ] (store : σ) : Prop :=
  ∀ (clock : SequentialClock) (tally : Tally), 0 ≤ clock.span →
    ∃ w : Workbook σ SequentialClock, Workbook.open store clock tally = .ok w ∧
      ∀ moves, clock.CanBeRead (IdClock.times clock (w.drawsOfMoves moves)).length →
        (w.afterMoves moves).ledgers.InTimeOrder

theorem SavesFaithfully.keepsTimeOrder {InOrder : σ → Prop} (hσ : SavesFaithfully σ InOrder)
    {store : σ} (hin : InOrder store) (hstore : ∀ c, CollectionStore.load store c = .ok []) :
    KeepsTimeOrder store := by
  intro clock tally hspan
  obtain ⟨counted, hopen⟩ := Workbook.open_empty hstore clock tally
  refine ⟨_, hopen, ?_⟩
  intro moves hread
  have hdated : Workbook.Dated InOrder [] (κ := SequentialClock)
      ⟨⟨.empty, clock, counted⟩, store, none⟩ := by
    refine ⟨.of_collections ?_ ?_ ?_, hin, fun c => ⟨[], hstore c, c.datedBy_nil []⟩⟩
    · exact Collection.datedBy_nil [] .students
    · exact Collection.datedBy_nil [] .grades
    · exact Collection.datedBy_nil [] .rewards
  have hafter := (hdated.afterMoves hσ moves).memory
  rw [List.nil_append] at hafter
  exact hafter.inTimeOrder (SequentialClock.times_inOrder hspan hread)

/-- From an empty store, in memory or in a directory, whichever saves are refused and wherever the
workbook is opened anew, the lists of grades, homework and rewards are in the order of time in every
state that is reached, and the views that sort by time read them from the end: as long as the
sequential clock does not step backwards and its readings are in the range of instants. -/
theorem recorded_order_is_time_order :
    (∀ s : MemoryStore, (∀ c, CollectionStore.load s c = .ok []) →
        KeepsTimeOrder s ∧ ∀ refusal, KeepsTimeOrder (Unreliable.new s refusal)) ∧
      ∀ s : FolderStore, s.IsEmpty →
        KeepsTimeOrder s ∧ ∀ refusal, KeepsTimeOrder (Unreliable.new s refusal) := by
  constructor
  · intro s hs
    have hσ := MemoryStore.savesFaithfully
    exact ⟨hσ.keepsTimeOrder trivial hs, fun refusal =>
      (Unreliable.savesFaithfully hσ).keepsTimeOrder trivial hs⟩
  · intro s hs
    have hσ := FolderStore.savesFaithfully
    have hload : ∀ c, CollectionStore.load s c = .ok [] := fun c => (hs c).1
    exact ⟨hσ.keepsTimeOrder hs.isSettled hload, fun refusal =>
      (Unreliable.savesFaithfully hσ).keepsTimeOrder hs.isSettled hload⟩

/-- The clock starts inside a leap second and leaves it with the second reading.  The save of the
first stamps is refused, so that the reopening takes up a list without them. -/
theorem order_is_kept_across_a_leap_second :
    let clock : SequentialClock := .new ⟨1483228799, 1500000000, by decide⟩ 600000000
    let refusal : Nat → Option Fault := fun n =>
      if n = 4 then some (Fault.storage "refused").value else none
    let w : Workbook (Unreliable MemoryStore) SequentialClock :=
      ⟨⟨.empty, clock, .empty⟩, .new .empty refusal, none⟩
    let moves : List Move := [.operation (.addStudent "Kim"), .operation (.select "student-1"),
      .operation (.runCommand "!penalty 2"), .operation (.runCommand "!stamp +1"), .reopening,
      .operation (.select "student-1"), .operation (.runCommand "!stamp +2")]
    Workbook.open (Unreliable.new MemoryStore.empty refusal) clock .empty = .ok w ∧
      0 ≤ clock.span ∧
      clock.CanBeRead (IdClock.times clock (w.drawsOfMoves moves)).length ∧
      (w.afterMoves moves).ledgers.InTimeOrder := by
  intro clock refusal w moves
  have hreach : ∀ i < 4,
      clock.start.Reaches (clock.span * (min i SequentialClock.maxTick : Nat)) := by
    decide
  have hlength : (IdClock.times clock (w.drawsOfMoves moves)).length = 4 := by decide
  have hread : clock.CanBeRead (IdClock.times clock (w.drawsOfMoves moves)).length := by
    rw [hlength]
    refine ⟨by decide, ?_⟩
    intro i _ hi
    exact hreach i hi
  obtain ⟨v, hopen, hkeeps⟩ :=
    (recorded_order_is_time_order.1 .empty fun c => rfl).2 refusal clock .empty (by decide)
  cases hopen
  exact ⟨rfl, by decide, hread, hkeeps moves hread⟩

end Gradebook
