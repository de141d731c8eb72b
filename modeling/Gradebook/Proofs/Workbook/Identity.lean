import Gradebook.Proofs.Ledger.Identity
import Gradebook.Proofs.Workbook.Change
import Gradebook.Proofs.Workbook.Reopening

/-!
# Identities along a run

From an empty store the identities in a workbook are those drawn from its clock, each once.  The
sequential clock repeats none before its counter wraps, so that until then every record can be told
apart by its identity, also after reopenings.
-/

namespace Gradebook

namespace Desk

variable {κ : Type} [IdClock κ]

theorem Change.named {d next : Desk κ} {current : Option StudentId} {o : Operation}
    {draws : List Draw} {names : List String} (h : d.Change current o draws next)
    (hnamed : d.ledgers.Named names) :
    next.ledgers.Named (names ++ IdClock.ids d.clock draws) := by
  cases h with
  | nothing o t =>
    rw [IdClock.ids, List.append_nil]
    exact hnamed
  | added hname => exact hnamed.add _ _
  | carriedOut hcurrent hid hparse => exact named_foldl_apply _ hnamed hid
  | completed hid hhomework =>
    rw [IdClock.ids, List.append_nil]
    refine hnamed.update _ fun s => ⟨rfl, rfl, ?_⟩
    exact map_updateFirst _ Homework.id_complete s.homework
  | reset hid =>
    rw [IdClock.ids, List.append_nil]
    exact hnamed.update _ fun s => ⟨rfl, rfl, rfl⟩

end Desk

namespace Workbook

variable {σ κ : Type} [CollectionStore σ] [IdClock κ]

theorem named_perform {w : Workbook σ κ} {names : List String} (h : w.desk.ledgers.Named names)
    (o : Operation) :
    (w.perform o).2.desk.ledgers.Named
      (names ++ IdClock.ids w.desk.clock (w.desk.draws w.current o)) := by
  rw [ledgers_perform]
  exact (w.desk.effect_change w.current o).named h

theorem named_after (ops : List Operation) {w : Workbook σ κ} {names : List String}
    (h : w.desk.ledgers.Named names) :
    (w.after ops).desk.ledgers.Named (names ++ IdClock.ids w.desk.clock (w.draws ops)) := by
  induction ops generalizing w names with
  | nil =>
    rw [draws, IdClock.ids, List.append_nil]
    exact h
  | cons o ops ih =>
    have hrest := ih (named_perform h o)
    rw [clock_perform, List.append_assoc, ← IdClock.ids_append] at hrest
    exact hrest

end Workbook

theorem Workbook.open_empty {σ κ : Type} [CollectionStore σ] {store : σ}
    (h : ∀ c, CollectionStore.load store c = .ok []) (clock : κ) (tally : Tally) :
    ∃ counted, «open» store clock tally = .ok ⟨⟨.empty, clock, counted⟩, store, none⟩ := by
  apply open_loaded
  intro c
  rw [h c]
  cases c <;> rfl

/-- A directory in which no records are found, neither now nor once it has been made. -/
def FolderStore.IsEmpty (s : FolderStore) : Prop :=
  ∀ c : Collection, CollectionStore.load s c = .ok [] ∧
    ∀ made, s.tree.makeDirectories s.directory = .ok made →
      CollectionStore.load { s with tree := made } c = .ok []

theorem FolderStore.IsEmpty.isSettled {s : FolderStore} (h : s.IsEmpty) : s.IsSettled := by
  intro made hmake c
  rw [(h c).1, (h c).2 made hmake]

theorem FolderStore.isEmpty_of_isSettled {s : FolderStore} (h : s.IsSettled)
    (hload : ∀ c, CollectionStore.load s c = .ok []) : s.IsEmpty := by
  intro c
  refine ⟨hload c, ?_⟩
  intro made hmake
  rw [h made hmake c, hload c]

namespace Workbook

variable {σ κ : Type} [CollectionStore σ] [IdClock κ]

/-- The workbook after a move.  A reopening selects no student. -/
def move (w : Workbook σ κ) : Move → Workbook σ κ
  | .operation o => (w.perform o).2
  | .reopening => w.reopen.2

def afterMoves (w : Workbook σ κ) (moves : List Move) : Workbook σ κ :=
  moves.foldl move w

def drawsOfMoves (w : Workbook σ κ) : List Move → List Draw
  | [] => []
  | .operation o :: rest => w.desk.draws w.current o ++ (w.move (.operation o)).drawsOfMoves rest
  | .reopening :: rest => (w.move .reopening).drawsOfMoves rest

omit [IdClock κ] in
theorem clock_reopen (w : Workbook σ κ) : w.reopen.2.desk.clock = w.desk.clock := by
  obtain ⟨f, hreopen⟩ | ⟨l, hreopen, -⟩ := w.reopen_cases
  · rw [hreopen]
    rfl
  · rw [hreopen]
    rfl

/-- What operations keep as they add to the values read off the draws, and reopenings keep as it is,
is kept through a run. -/
theorem keeps_afterMoves {α : Type} {values : κ → List Draw → List α}
    {P : List α → Workbook σ κ → Prop} (hnil : ∀ clock, values clock [] = [])
    (happend : ∀ clock draws more, values clock (draws ++ more) =
      values clock draws ++ values (IdClock.after clock draws) more)
    (hperform : ∀ {seen : List α} {w : Workbook σ κ} (o : Operation), P seen w →
      P (seen ++ values w.desk.clock (w.desk.draws w.current o)) (w.perform o).2)
    (hreopen : ∀ {seen : List α} {w : Workbook σ κ}, P seen w → P seen w.reopen.2)
    (moves : List Move) {seen : List α} {w : Workbook σ κ} (h : P seen w) :
    P (seen ++ values w.desk.clock (w.drawsOfMoves moves)) (w.afterMoves moves) := by
  induction moves generalizing w seen with
  | nil =>
    rw [drawsOfMoves, hnil, List.append_nil]
    exact h
  | cons m moves ih =>
    cases m with
    | operation o =>
      have hrest := ih (hperform o h)
      rw [clock_perform, List.append_assoc, ← happend] at hrest
      exact hrest
    | reopening =>
      have hrest := ih (hreopen h)
      rw [clock_reopen] at hrest
      exact hrest

theorem failedSaves_le_move (w : Workbook σ κ) (m : Move) :
    w.failedSaves ≤ (w.move m).failedSaves := by
  cases m with
  | operation o => exact w.failedSaves_le_perform o
  | reopening => exact Nat.le_of_eq w.failedSaves_reopen.symm

theorem failedSaves_le_afterMoves (moves : List Move) (w : Workbook σ κ) :
    w.failedSaves ≤ (w.afterMoves moves).failedSaves := by
  induction moves generalizing w with
  | nil => exact Nat.le_refl _
  | cons m moves ih => exact Nat.le_trans (w.failedSaves_le_move m) (ih _)

/-- Where no save fails, the store stays in step with memory and every identity drawn goes to one
record, also through reopenings. -/
theorem InStep.afterMoves [CountsFailures σ] {InOrder : σ → Prop}
    (hσ : SavesFaithfully σ InOrder) (moves : List Move) {w : Workbook σ κ} {names : List String}
    (h : InStep InOrder [] w) (hnamed : w.desk.ledgers.Named names)
    (hsaved : (w.afterMoves moves).failedSaves = w.failedSaves) :
    InStep InOrder [] (w.afterMoves moves) ∧ (w.afterMoves moves).desk.ledgers.Named
      (names ++ IdClock.ids w.desk.clock (w.drawsOfMoves moves)) := by
  induction moves generalizing w names with
  | nil =>
    rw [drawsOfMoves, IdClock.ids, List.append_nil]
    exact ⟨h, hnamed⟩
  | cons m moves ih =>
    -- no save fails in the whole run, so none fails in this move or after it
    have hcons : w.afterMoves (m :: moves) = (w.move m).afterMoves moves := rfl
    rw [hcons] at hsaved ⊢
    have hfirst := w.failedSaves_le_move m
    have hrest := failedSaves_le_afterMoves moves (w.move m)
    have hone : (w.move m).failedSaves = w.failedSaves := by omega
    have hmore : ((w.move m).afterMoves moves).failedSaves = (w.move m).failedSaves := by omega
    cases m with
    | operation o =>
      have hmoved := ih (h.perform hσ o hone) (named_perform hnamed o) hmore
      rw [clock_perform, List.append_assoc, ← IdClock.ids_append] at hmoved
      exact hmoved
    | reopening =>
      have hmove : w.move .reopening = ⟨w.desk, w.store, none⟩ := congrArg Prod.snd h.reopen_eq
      rw [drawsOfMoves]
      rw [hmove] at hmore ⊢
      exact ih ⟨h.inOrder, h.loaded⟩ hnamed hmore

end Workbook

/-- The number of identities that a clock has drawn after some draws. -/
def SequentialClock.drawnAfter (clock : SequentialClock) (draws : List Draw) : Nat :=
  clock.drawn.toNat + (IdClock.ids clock draws).length

theorem Ledgers.Named.identified {l : Ledgers} {clock : SequentialClock} {draws : List Draw}
    (h : l.Named ([] ++ IdClock.ids clock draws)) (hdrawn : clock.drawnAfter draws < UInt64.size) :
    l.Identified := by
  rw [List.nil_append] at h
  exact Ledgers.identified h (SequentialClock.drawsDistinct hdrawn _ (Nat.le_refl _))

/-- A store from which every run leaves records that can be told apart, as long as the clock has drawn
fewer identities than it can count, whatever becomes of the saves. -/
def TellsRecordsApart {σ : Type} [CollectionStore σ] (store : σ) : Prop :=
  ∀ (clock : SequentialClock) (tally : Tally), ∃ w : Workbook σ SequentialClock,
    Workbook.open store clock tally = .ok w ∧
      ∀ ops, clock.drawnAfter (w.draws ops) < UInt64.size → (w.after ops).ledgers.Identified

/-- The same of runs with reopenings in which no save fails, and which leave a workbook that can be
opened again. -/
def TellsReopenedApart {σ : Type} [CollectionStore σ] (store : σ) : Prop :=
  ∀ (clock : SequentialClock) (tally : Tally), ∃ w : Workbook σ SequentialClock,
    Workbook.open store clock tally = .ok w ∧
      ∀ moves, clock.drawnAfter (w.drawsOfMoves moves) < UInt64.size →
        (w.afterMoves moves).failedSaves = w.failedSaves →
          (w.afterMoves moves).ledgers.Identified ∧ (w.afterMoves moves).reopen.1 = .ok ()

theorem tellsRecordsApart {σ : Type} [CollectionStore σ] {store : σ}
    (hstore : ∀ c, CollectionStore.load store c = .ok []) : TellsRecordsApart store := by
  intro clock tally
  obtain ⟨counted, hopen⟩ := Workbook.open_empty hstore clock tally
  refine ⟨_, hopen, ?_⟩
  intro ops hdrawn
  have hnamed := Workbook.named_after ops (w := ⟨⟨.empty, clock, counted⟩, store, none⟩) .empty
  exact hnamed.identified hdrawn

theorem SavesFaithfully.tellsReopenedApart {σ : Type} [CollectionStore σ] [CountsFailures σ]
    {InOrder : σ → Prop} (hσ : SavesFaithfully σ InOrder) {store : σ} (hin : InOrder store)
    (hstore : ∀ c, CollectionStore.load store c = .ok []) : TellsReopenedApart store := by
  intro clock tally
  obtain ⟨counted, hopen⟩ := Workbook.open_empty hstore clock tally
  refine ⟨_, hopen, ?_⟩
  intro moves hdrawn hsaved
  obtain ⟨hstep, hnamed⟩ := Workbook.InStep.afterMoves hσ moves
    (w := ⟨⟨.empty, clock, counted⟩, store, none⟩) ⟨hin, fun c _ => (Workbook.open_ok hopen).2 c⟩
    .empty hsaved
  exact ⟨hnamed.identified hdrawn, congrArg Prod.fst hstep.reopen_eq⟩

/-- From an empty store, with the sequential clock and before its counter wraps, the identities of all
students, grades, homework items and rewards are pairwise different after every run, so that look-ups
and changes by identity address the one record that has it; in memory and in a directory also where
the workbook is opened anew in between. -/
theorem identities_are_unique :
    (∀ {σ : Type} [CollectionStore σ] (store : σ),
      (∀ c, CollectionStore.load store c = .ok []) → TellsRecordsApart store) ∧
      (∀ s : MemoryStore, (∀ c, CollectionStore.load s c = .ok []) → TellsReopenedApart s) ∧
      ∀ s : FolderStore, s.IsEmpty → TellsReopenedApart s := by
  refine ⟨?_, ?_, ?_⟩
  · intro σ _ store hstore
    exact tellsRecordsApart hstore
  · intro s hs
    exact MemoryStore.savesFaithfully.tellsReopenedApart trivial hs
  · intro s hs
    exact FolderStore.savesFaithfully.tellsReopenedApart hs.isSettled fun c => (hs c).1

theorem identities_are_unique_after_reopening :
    let w : Workbook MemoryStore SequentialClock := ⟨⟨.empty, .new .epoch 0, .empty⟩, .empty, none⟩
    let moves : List Move := [.operation (.addStudent "Kim"), .reopening,
      .operation (.select "student-1"), .operation (.runCommand "!penalty 2"), .reopening,
      .operation (.addStudent "Lee")]
    FolderStore.IsEmpty ⟨.empty, ["data"]⟩ ∧ TellsReopenedApart (FolderStore.mk .empty ["data"]) ∧
      Workbook.open w.store w.desk.clock w.desk.tally = .ok w ∧
      w.desk.clock.drawnAfter (w.drawsOfMoves moves) < UInt64.size ∧
      (w.afterMoves moves).failedSaves = w.failedSaves ∧
      (w.afterMoves moves).ledgers.Identified := by
  intro w moves
  have hempty : FolderStore.IsEmpty ⟨.empty, ["data"]⟩ :=
    FolderStore.isEmpty_of_isSettled
      (FolderStore.isSettled_of_wellFormed FileTree.isWellFormed_empty (.inr (by decide)))
      (fun c => by cases c <;> rfl)
  have hdrawn : w.desk.clock.drawnAfter (w.drawsOfMoves moves) < UInt64.size := by decide
  have hsaved : (w.afterMoves moves).failedSaves = w.failedSaves := by decide
  obtain ⟨v, hopen, hapart⟩ :=
    identities_are_unique.2.1 .empty (fun c => rfl) (.new .epoch 0) .empty
  cases hopen
  exact ⟨hempty, identities_are_unique.2.2 _ hempty, rfl, hdrawn, hsaved,
    (hapart moves hdrawn hsaved).1⟩

end Gradebook
