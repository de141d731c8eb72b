import Gradebook.Proofs.Workbook.Saving

/-!
# Reopening

While no save fails, the store holds what is in memory, so that a workbook which is reopened and
given its selected student again is the workbook it was.  A run with reopenings in it is the run
without them.
-/

namespace Gradebook

open CollectionStore (save)

/-- A step of a run: an operation, or closing the workbook and opening it again. -/
inductive Move where
  | operation (o : Operation)
  | reopening

def Move.operations : List Move → List Operation
  | [] => []
  | .operation o :: rest => o :: operations rest
  | .reopening :: rest => operations rest

namespace Workbook

variable {σ κ : Type} [CollectionStore σ]

def resume (w : Workbook σ κ) : Except Fault (Workbook σ κ) :=
  match w.reopen with
  | (.error f, _) => .error f
  | (.ok (), opened) =>
    match w.current with
    | none => .ok opened
    | some id =>
      match opened.select id with
      | (.error f, _) => .error f
      | (.ok _, resumed) => .ok resumed

/-- Carries a run with reopenings out, with the answers of its operations, unless a reopening
fails. -/
def runMoves [IdClock κ] (w : Workbook σ κ) : List Move → Except Fault (List Answer × Workbook σ κ)
  | [] => .ok ([], w)
  | .operation o :: rest =>
    match (w.perform o).2.runMoves rest with
    | .error f => .error f
    | .ok (answers, last) => .ok ((w.perform o).1 :: answers, last)
  | .reopening :: rest =>
    match w.resume with
    | .error f => .error f
    | .ok resumed => resumed.runMoves rest

/-- A reopening fails and keeps what was counted, or it gives what is in the store. -/
theorem reopen_cases (w : Workbook σ κ) :
    let counted := w.desk.countFaults (loadingLedgers w.store).run.faults
    (∃ f, w.reopen = (.error f, { w with desk := counted })) ∨
      ∃ l, w.reopen = (.ok (), ⟨{ counted with ledgers := l }, w.store, none⟩) ∧
        ∀ c, CollectionStore.load w.store c = .ok (recordsOf l c) := by
  intro counted
  unfold reopen
  obtain ⟨f, hopen, -⟩ | ⟨l, hopen, hledgers⟩ := open_cases w.store w.desk.clock w.desk.tally
  · rw [hopen]
    exact .inl ⟨f, rfl⟩
  · rw [hopen]
    exact .inr ⟨l, rfl, loadLedgers_ok hledgers⟩

/-! ### Saves that fail -/

def failedSaves (w : Workbook σ κ) : Nat :=
  w.desk.tally.familyTotal .failedSaves

theorem failedSaves_persistOne (w : Workbook σ κ) (c : Collection) :
    (w.persistOne c).failedSaves =
      w.failedSaves + if (save w.store c (w.records c)).1 = none then 0 else 1 := by
  have hcounted : ∀ codes, (w.desk.countFaults codes).tally.familyTotal .failedSaves =
      w.failedSaves := fun codes => w.desk.tally.familyTotal_countFaults codes .failedSaves
  rw [persistOne_eq]
  cases hsave : (save w.store c (w.records c)).1 with
  | none => exact hcounted _
  | some f =>
    simp only [failedSaves, Desk.count, Desk.withTally, Tally.familyTotal_count, hcounted,
      Counter.family, reduceCtorEq, if_true, if_false]

theorem failedSaves_reopen (w : Workbook σ κ) : w.reopen.2.failedSaves = w.failedSaves := by
  obtain ⟨f, hreopen⟩ | ⟨l, hreopen, -⟩ := w.reopen_cases
  · rw [hreopen]
    exact w.desk.tally.familyTotal_countFaults _ .failedSaves
  · rw [hreopen]
    exact w.desk.tally.familyTotal_countFaults _ .failedSaves

theorem failedSaves_le_persist (cs : List Collection) (w : Workbook σ κ) :
    w.failedSaves ≤ (w.persist cs).failedSaves := by
  unfold persist
  induction cs generalizing w with
  | nil => exact Nat.le_refl _
  | cons c cs ih =>
    have hone := w.failedSaves_persistOne c
    have hrest := ih (w.persistOne c)
    rw [List.foldl_cons]
    omega

omit [CollectionStore σ] in
theorem failedSaves_unsaved [IdClock κ] (w : Workbook σ κ) (o : Operation) :
    (w.unsaved o).failedSaves = w.failedSaves :=
  w.desk.failedSaves_effect w.current o

theorem failedSaves_le_perform [IdClock κ] (w : Workbook σ κ) (o : Operation) :
    w.failedSaves ≤ (w.perform o).2.failedSaves := by
  rw [perform_eq, ← w.failedSaves_unsaved o]
  exact failedSaves_le_persist _ _

theorem failedSaves_le_after [IdClock κ] (ops : List Operation) (w : Workbook σ κ) :
    w.failedSaves ≤ (w.after ops).failedSaves := by
  induction ops generalizing w with
  | nil => exact Nat.le_refl _
  | cons o ops ih => exact Nat.le_trans (w.failedSaves_le_perform o) (ih _)

/-! ### The store in step with memory -/

/-- The store holds what is in memory, but for collections whose save is due. -/
structure InStep (InOrder : σ → Prop) (due : List Collection) (w : Workbook σ κ) : Prop where
  inOrder : InOrder w.store
  loaded : ∀ c, c ∉ due → CollectionStore.load w.store c = .ok (w.records c)

theorem InStep.persistOne {InOrder : σ → Prop} (hσ : SavesFaithfully σ InOrder) {c : Collection}
    {due : List Collection} {w : Workbook σ κ} (h : InStep InOrder (c :: due) w)
    (hsaved : (save w.store c (w.records c)).1 = none) : InStep InOrder due (w.persistOne c) := by
  have hrecords : ∀ d, (w.persistOne c).records d = w.records d :=
    records_of_memory (w.memory_persistOne c)
  refine ⟨?_, ?_⟩
  · rw [store_persistOne]
    exact hσ.inOrder c _ h.inOrder
  · intro d hdue
    rw [hrecords, store_persistOne]
    by_cases hd : d = c
    · subst hd
      exact hσ.load_saved h.inOrder hsaved
    · have hnotdue : d ∉ c :: due := by
        rw [List.mem_cons, not_or]
        exact ⟨hd, hdue⟩
      rw [hσ.load_other _ h.inOrder hd]
      exact h.loaded d hnotdue

theorem InStep.persist {InOrder : σ → Prop} (hσ : SavesFaithfully σ InOrder)
    {cs : List Collection} {w : Workbook σ κ} (h : InStep InOrder cs w)
    (hsaved : (w.persist cs).failedSaves = w.failedSaves) : InStep InOrder [] (w.persist cs) := by
  induction cs generalizing w with
  | nil => exact h
  | cons c cs ih =>
    have hcons : w.persist (c :: cs) = (w.persistOne c).persist cs := rfl
    rw [hcons] at hsaved ⊢
    -- the number of failed saves never falls, so it cannot have risen here
    have hone := w.failedSaves_persistOne c
    have hrest := failedSaves_le_persist cs (w.persistOne c)
    have hnone : (save w.store c (w.records c)).1 = none := by
      cases hsave : (save w.store c (w.records c)).1 with
      | none => rfl
      | some f =>
        rw [hsave, if_neg (Option.some_ne_none f)] at hone
        omega
    rw [if_pos hnone] at hone
    apply ih (h.persistOne hσ hnone)
    omega

def SelectsStudent (w : Workbook σ κ) : Prop :=
  ∀ id, w.current = some id → id ∈ Roster.ids w.desk.ledgers.roster

theorem InStep.reopen_eq [CountsFailures σ] {InOrder : σ → Prop} {w : Workbook σ κ}
    (h : InStep InOrder [] w) :
    w.reopen = (.ok (), ⟨w.desk, w.store, none⟩) := by
  have hload : ∀ c, CollectionStore.load w.store c = .ok (recordsOf w.desk.ledgers c) :=
    fun c => h.loaded c List.not_mem_nil
  rw [reopen, open_eq hload]

/-- Reopening a workbook that is in step with its store changes nothing. -/
theorem InStep.resume [CountsFailures σ] {InOrder : σ → Prop} {w : Workbook σ κ}
    (h : InStep InOrder [] w) (hselected : w.SelectsStudent) : w.resume = .ok w := by
  unfold Workbook.resume
  rw [h.reopen_eq]
  cases hcurrent : w.current with
  | none =>
    cases w
    cases hcurrent
    rfl
  | some id =>
    -- the roster that is loaded is the one in memory, where the student was found
    have hstudent := (Roster.has_iff _ id).2 (hselected id hcurrent)
    obtain ⟨s, hs⟩ := Option.isSome_iff_exists.1 hstudent
    simp only [select, roster, hs]
    cases w
    cases hcurrent
    rfl

theorem resume_ok {w v : Workbook σ κ} (h : w.resume = .ok v) (c : Collection) :
    CollectionStore.load w.store c = .ok (v.records c) := by
  unfold resume at h
  obtain ⟨f, hreopen⟩ | ⟨l, hreopen, hload⟩ := w.reopen_cases
  · simp [hreopen] at h
  · simp only [hreopen] at h
    cases hcurrent : w.current with
    | none =>
      simp only [hcurrent] at h
      cases h
      exact hload c
    | some id =>
      simp only [hcurrent, select] at h
      cases hget : l.roster.get? id with
      | none => simp [roster, hget, fail] at h
      | some s =>
        simp only [roster, hget] at h
        cases h
        exact hload c

variable [IdClock κ]

theorem InStep.perform {InOrder : σ → Prop} (hσ : SavesFaithfully σ InOrder) {w : Workbook σ κ}
    (h : InStep InOrder [] w) (o : Operation)
    (hsaved : (w.perform o).2.failedSaves = w.failedSaves) :
    InStep InOrder [] (w.perform o).2 := by
  rw [perform_eq] at hsaved ⊢
  apply InStep.persist hσ
  · refine ⟨h.inOrder, ?_⟩
    intro c hdue
    have hsame : (w.unsaved o).records c = w.records c := w.desk.effect_unsaved w.current o hdue
    rw [hsame]
    exact h.loaded c List.not_mem_nil
  · rw [failedSaves_unsaved]
    exact hsaved

theorem SelectsStudent.perform {w : Workbook σ κ} (h : w.SelectsStudent) (o : Operation) :
    (w.perform o).2.SelectsStudent := by
  have hmemory := w.memory_perform o
  have hledgers := congrArg Memory.ledgers hmemory
  have hcurrent := congrArg Memory.current hmemory
  simp only [memory] at hledgers hcurrent
  intro id hid
  rw [hcurrent] at hid
  rw [hledgers]
  exact Desk.mem_ids_current_effect h o hid

/-- Where no save fails, a run with reopenings is the run without them. -/
theorem InStep.runMoves [CountsFailures σ] {InOrder : σ → Prop}
    (hσ : SavesFaithfully σ InOrder) (moves : List Move)
    {w : Workbook σ κ} (h : InStep InOrder [] w) (hselected : w.SelectsStudent)
    (hsaved : (w.after (Move.operations moves)).failedSaves = w.failedSaves) :
    w.runMoves moves = .ok (w.run (Move.operations moves)) := by
  induction moves generalizing w with
  | nil => rfl
  | cons move moves ih =>
    cases move with
    | operation o =>
      -- no save fails in the whole run, so none fails in this operation or after it
      simp only [Move.operations, after_cons] at hsaved
      have hfirst := w.failedSaves_le_perform o
      have hrest := failedSaves_le_after (Move.operations moves) (w.perform o).2
      have hnext := h.perform hσ o (by omega)
      have hrun := ih hnext (hselected.perform o) (by omega)
      simp only [Workbook.runMoves, Move.operations, hrun, run_cons]
    | reopening =>
      have hresume := h.resume hselected
      simp only [Workbook.runMoves, Move.operations, hresume]
      exact ih h hselected hsaved

end Workbook

/-! ### Reopening goes unnoticed -/

/-- A store under which reopening goes unnoticed: after opening, a run in which no save fails gives
the answers and ends in the workbook that it would with any reopenings put in between, each of which
opens the workbook and selects its student again. -/
def ReopensUnnoticed {σ : Type} [CollectionStore σ] (store : σ) : Prop :=
  ∀ {κ : Type} [IdClock κ] {clock : κ} {tally : Tally} {w : Workbook σ κ},
    Workbook.open store clock tally = .ok w →
      ∀ moves, (w.after (Move.operations moves)).failedSaves = w.failedSaves →
        w.runMoves moves = .ok (w.run (Move.operations moves))

theorem SavesFaithfully.reopensUnnoticed {σ : Type} [CollectionStore σ] [CountsFailures σ]
    {InOrder : σ → Prop} (hσ : SavesFaithfully σ InOrder) {store : σ} (hstore : InOrder store) :
    ReopensUnnoticed store := by
  intro κ _ clock tally w hopen moves hsaved
  obtain ⟨hw, hload⟩ := Workbook.open_ok hopen
  have hstep : Workbook.InStep InOrder [] w := by
    rw [hw]
    exact ⟨hstore, fun c _ => hload c⟩
  have hselected : w.SelectsStudent := by
    intro id hid
    rw [hw] at hid
    cases hid
  exact hstep.runMoves hσ moves hselected hsaved

theorem ReopensUnnoticed.load_perform {σ κ : Type} [CollectionStore σ] [IdClock κ] {store : σ}
    (h : ReopensUnnoticed store) {clock : κ} {tally : Tally} {w : Workbook σ κ}
    (hopen : Workbook.open store clock tally = .ok w) {o : Operation}
    (hsaved : (w.perform o).2.failedSaves = w.failedSaves) (c : Collection) :
    CollectionStore.load (w.perform o).2.store c = .ok ((w.perform o).2.records c) := by
  have hrun := h hopen [.operation o, .reopening] hsaved
  apply Workbook.resume_ok
  simp only [Workbook.runMoves, Move.operations, Workbook.run_cons] at hrun
  cases hresumed : (w.perform o).2.resume with
  | error f =>
    rw [hresumed] at hrun
    cases hrun
  | ok resumed =>
    rw [hresumed] at hrun
    exact congrArg _ (Prod.mk.inj (Except.ok.inj hrun)).2

/-- Reopening goes unnoticed in memory, and in a directory that is settled, which every directory is
that is there or whose path has no steps up. -/
theorem reopening_is_invisible :
    (∀ s : MemoryStore, ReopensUnnoticed s) ∧
      (∀ s : FolderStore, s.IsSettled → ReopensUnnoticed s) ∧
      ∀ s : FolderStore, s.tree.IsWellFormed →
        (s.tree.isDirectory s.directory = true ∨ ".." ∉ s.directory) → s.IsSettled := by
  refine ⟨?_, ?_, ?_⟩
  · intro s
    exact MemoryStore.savesFaithfully.reopensUnnoticed trivial
  · intro s hs
    exact FolderStore.savesFaithfully.reopensUnnoticed hs
  · intro s htree hpath
    exact FolderStore.isSettled_of_wellFormed htree hpath

theorem reopening_is_invisible_to_new_student :
    let w : Workbook MemoryStore SequentialClock := ⟨⟨.empty, .new .epoch 0, .empty⟩, .empty, none⟩
    let moves : List Move := [.operation (.addStudent "Kim"), .reopening,
      .operation (.select "student-1"), .reopening]
    ReopensUnnoticed (FolderStore.mk .empty ["data"]) ∧
      Workbook.open w.store w.desk.clock w.desk.tally = .ok w ∧
      (w.after (Move.operations moves)).failedSaves = w.failedSaves ∧
      w.runMoves moves = .ok (w.run (Move.operations moves)) := by
  intro w moves
  have hsettled : (FolderStore.mk .empty ["data"]).IsSettled :=
    reopening_is_invisible.2.2 _ FileTree.isWellFormed_empty (.inr (by decide))
  have hopen : Workbook.open w.store w.desk.clock w.desk.tally = .ok w := rfl
  have hsaved : (w.after (Move.operations moves)).failedSaves = w.failedSaves := by decide
  exact ⟨reopening_is_invisible.2.1 _ hsettled, hopen, hsaved,
    reopening_is_invisible.1 .empty hopen moves hsaved⟩

theorem reopening_reveals_hidden_file : ¬ ReopensUnnoticed FolderStore.hidden := by
  intro h
  let w : Workbook FolderStore SequentialClock := ⟨⟨.empty, .new .epoch 0, .empty⟩, .hidden, none⟩
  have hempty : ∀ c, CollectionStore.load w.store c = .ok (w.records c) := by
    intro c
    have hload := FolderStore.load_hidden c
    cases c <;> exact hload
  have hopen := Workbook.open_eq hempty w.desk.clock w.desk.tally
  have hadded := w.perform_addStudent "Kim" (by decide)
  obtain ⟨hsaved, hfound⟩ :=
    FolderStore.save_hidden ((w.unsaved (.addStudent "Kim")).records .students)
  have hnone : ((w.perform (.addStudent "Kim")).2).failedSaves = w.failedSaves := by
    rw [hadded, Workbook.failedSaves_persistOne, ← w.failedSaves_unsaved (.addStudent "Kim")]
    exact congrArg _ (if_pos hsaved)
  have hload := h.load_perform hopen hnone .grades
  rw [hadded, Workbook.store_persistOne,
    Workbook.records_of_memory (Workbook.memory_persistOne _ _)] at hload
  have hrevealed := hfound.symm.trans hload
  cases hrevealed

end Gradebook
