import Gradebook.Proofs.Store.Counting
import Gradebook.Proofs.Store.Folder
import Gradebook.Proofs.Workbook.Effect

/-!
# Saving

Saving changes the store and the counters and nothing else of a workbook.  Over a store that saves
faithfully, with any of its saves refused, the store holds what was saved last: the records in
memory wherever the latest attempt to save them succeeded.
-/

namespace Gradebook

open CollectionStore (save saving)
open Fault (codesOf)

/-- What a workbook holds apart from its store and its counters. -/
structure Memory (κ : Type) where
  ledgers : Ledgers
  clock : κ
  current : Option StudentId

namespace Workbook

variable {σ κ : Type} [CollectionStore σ]

def memory (w : Workbook σ κ) : Memory κ :=
  ⟨w.desk.ledgers, w.desk.clock, w.current⟩

/-- The records of a collection in the memory of a workbook. -/
def records (w : Workbook σ κ) (c : Collection) : List c.Record :=
  recordsOf w.desk.ledgers c

/-- What the store counts is counted, and a save that fails besides. -/
theorem persistOne_eq (w : Workbook σ κ) (c : Collection) :
    w.persistOne c =
      let counted := w.desk.countFaults (saving w.store c (w.records c)).faults
      let store := (save w.store c (w.records c)).2
      match (save w.store c (w.records c)).1 with
      | none => ⟨counted, store, w.current⟩
      | some _ => ⟨counted.count (.failedSave c), store, w.current⟩ := by
  have hrecords : recordsOf w.ledgers c = w.records c := rfl
  unfold persistOne save
  rw [hrecords]
  split
  next hfault => simp only [hfault, countFaults]
  next hfault => simp only [hfault, countFaults, count]

theorem store_persistOne (w : Workbook σ κ) (c : Collection) :
    (w.persistOne c).store = (save w.store c (w.records c)).2 := by
  rw [persistOne_eq]
  split
  · rfl
  · rfl

theorem memory_persistOne (w : Workbook σ κ) (c : Collection) :
    (w.persistOne c).memory = w.memory := by
  rw [persistOne_eq]
  split
  · rfl
  · rfl

theorem persist_cons (w : Workbook σ κ) (c : Collection) (cs : List Collection) :
    w.persist (c :: cs) = (w.persistOne c).persist cs := rfl

theorem memory_persist (cs : List Collection) (w : Workbook σ κ) :
    (w.persist cs).memory = w.memory := by
  unfold persist
  induction cs generalizing w with
  | nil => rfl
  | cons c cs ih => rw [List.foldl_cons, ih, memory_persistOne]

theorem memory_perform [IdClock κ] (w : Workbook σ κ) (o : Operation) :
    (w.perform o).2.memory =
      ⟨(w.desk.effect w.current o).desk.ledgers, (w.desk.effect w.current o).desk.clock,
        (w.desk.effect w.current o).current⟩ := by
  rw [perform_eq, memory_persist]
  rfl

omit [CollectionStore σ] in
theorem records_of_memory {w v : Workbook σ κ} (h : w.memory = v.memory) (c : Collection) :
    w.records c = v.records c := by
  have hledgers : w.desk.ledgers = v.desk.ledgers := congrArg Memory.ledgers h
  rw [records, records, hledgers]

theorem load_persistOne {InOrder : σ → Prop} (hσ : SavesFaithfully σ InOrder) {w : Workbook σ κ}
    (h : InOrder w.store) (c d : Collection) :
    CollectionStore.load (w.persistOne c).store d = .ok (w.records d) ∨
      CollectionStore.load (w.persistOne c).store d = CollectionStore.load w.store d := by
  rw [store_persistOne]
  by_cases hd : d = c
  · subst hd
    cases hsave : (save w.store d (w.records d)).1 with
    | none => exact .inl (hσ.load_saved h hsave)
    | some f =>
      have hfailed : (save w.store d (w.records d)).1 ≠ none := by
        rw [hsave]
        exact Option.some_ne_none f
      exact .inr (hσ.load_failed h hfailed)
  · exact .inr (hσ.load_other _ h hd)

/-- Whichever saves fail, each collection of the store is what it was or what is in memory. -/
theorem load_persist {InOrder : σ → Prop} (hσ : SavesFaithfully σ InOrder) (cs : List Collection)
    {w : Workbook σ κ} (h : InOrder w.store) :
    InOrder (w.persist cs).store ∧ ∀ d,
      CollectionStore.load (w.persist cs).store d = .ok (w.records d) ∨
        CollectionStore.load (w.persist cs).store d = CollectionStore.load w.store d := by
  induction cs generalizing w with
  | nil => exact ⟨h, fun d => .inr rfl⟩
  | cons c cs ih =>
    have hone : InOrder (w.persistOne c).store := by
      rw [store_persistOne]
      exact hσ.inOrder c _ h
    have hrecords := records_of_memory (w.memory_persistOne c)
    obtain ⟨hin, hrest⟩ := ih hone
    rw [persist_cons]
    refine ⟨hin, ?_⟩
    intro d
    rcases hrest d with hload | hload
    · exact .inl (by rw [hload, hrecords])
    · rw [hload]
      exact load_persistOne hσ h c d

theorem load_eq (store : σ) (c : Collection) :
    load store c = (CollectionStore.load store c).mapError (·.detailed s!"loading {c.name}") := rfl

theorem load_ok {store : σ} {c : Collection} {records : List c.Record}
    (h : load store c = .ok records) :
    CollectionStore.load store c = .ok records := by
  rw [load_eq] at h
  cases hload : CollectionStore.load store c with
  | error f =>
    rw [hload] at h
    cases h
  | ok found =>
    rw [hload] at h
    cases h
    rfl

/-- The collections are loaded one after the other, up to the first that fails. -/
theorem loadLedgers_eq_bind (store : σ) :
    loadLedgers store = (do
      let roster ← load store .students
      let grades ← load store .grades
      let rewards ← load store .rewards
      return ⟨roster, grades, rewards⟩) := by
  unfold loadLedgers loadingLedgers load
  cases hstudents : (loading store .students).run.value with
  | error f => rw [Fallible.run_bind_of_error hstudents]; rfl
  | ok roster =>
    rw [Fallible.run_bind_of_ok hstudents]
    cases hgrades : (loading store .grades).run.value with
    | error f => rw [Fallible.run_bind_of_error hgrades]; rfl
    | ok grades =>
      rw [Fallible.run_bind_of_ok hgrades]
      cases hrewards : (loading store .rewards).run.value with
      | error f => rw [Fallible.run_bind_of_error hrewards]; rfl
      | ok rewards => rw [Fallible.run_bind_of_ok hrewards]; rfl

theorem loadLedgers_ok {store : σ} {l : Ledgers} (h : loadLedgers store = .ok l)
    (c : Collection) : CollectionStore.load store c = .ok (recordsOf l c) := by
  rw [loadLedgers_eq_bind] at h
  cases hstudents : load store .students with
  | error f => simp [hstudents, bind, Except.bind] at h
  | ok roster =>
    cases hgrades : load store .grades with
    | error f => simp [hstudents, hgrades, bind, Except.bind] at h
    | ok grades =>
      cases hrewards : load store .rewards with
      | error f => simp [hstudents, hgrades, hrewards, bind, Except.bind] at h
      | ok rewards =>
        rw [hstudents, hgrades, hrewards] at h
        cases h
        cases c with
        | students => exact load_ok hstudents
        | grades => exact load_ok hgrades
        | rewards => exact load_ok hrewards

theorem loadLedgers_eq {store : σ} {l : Ledgers}
    (h : ∀ c, CollectionStore.load store c = .ok (recordsOf l c)) : loadLedgers store = .ok l := by
  have hload : ∀ c, load store c = .ok (recordsOf l c) := by
    intro c
    rw [load_eq, h c]
    rfl
  rw [loadLedgers_eq_bind, hload .students, hload .grades, hload .rewards]
  rfl

/-- Opening loads the ledgers, and counts the faults of loading whether it succeeds or not. -/
theorem open_cases (store : σ) (clock : κ) (tally : Tally) :
    let counted := tally.countFaults (loadingLedgers store).run.faults
    (∃ f, «open» store clock tally = .error (f, counted) ∧ loadLedgers store = .error f) ∨
      ∃ l, «open» store clock tally = .ok ⟨⟨l, clock, counted⟩, store, none⟩ ∧
        loadLedgers store = .ok l := by
  intro counted
  unfold «open» loadLedgers
  cases hledgers : (loadingLedgers store).run.value with
  | error f =>
    refine .inl ⟨f, ?_, rfl⟩
    simp only [hledgers]
    rfl
  | ok l =>
    refine .inr ⟨l, ?_, rfl⟩
    simp only [hledgers]
    rfl

theorem open_ok {store : σ} {clock : κ} {tally : Tally} {w : Workbook σ κ}
    (h : «open» store clock tally = .ok w) :
    w = ⟨⟨w.desk.ledgers, clock, w.desk.tally⟩, store, none⟩ ∧
      ∀ c, CollectionStore.load store c = .ok (w.records c) := by
  obtain ⟨f, hopen, -⟩ | ⟨l, hopen, hledgers⟩ := open_cases store clock tally
  · rw [hopen] at h
    cases h
  · rw [hopen] at h
    cases h
    exact ⟨rfl, loadLedgers_ok hledgers⟩

theorem open_loaded {store : σ} {l : Ledgers}
    (h : ∀ c, CollectionStore.load store c = .ok (recordsOf l c)) (clock : κ) (tally : Tally) :
    ∃ counted, «open» store clock tally = .ok ⟨⟨l, clock, counted⟩, store, none⟩ := by
  have hledgers := loadLedgers_eq h
  obtain ⟨f, -, hfailed⟩ | ⟨m, hopen, hloaded⟩ := open_cases store clock tally
  · rw [hledgers] at hfailed
    cases hfailed
  · rw [hledgers] at hloaded
    cases hloaded
    exact ⟨_, hopen⟩

section Counting

variable [CountsFailures σ]

theorem persistOne_saved {w : Workbook σ κ} {c : Collection}
    (h : (save w.store c (w.records c)).1 = none) :
    w.persistOne c = { w with store := (save w.store c (w.records c)).2 } := by
  rw [persistOne_eq, CountsFailures.faults_saving]
  simp only [h]
  rfl

/-- A save that fails is counted as a fault and as a failed save. -/
theorem persistOne_failed {w : Workbook σ κ} {c : Collection} {f : Fault}
    (h : (save w.store c (w.records c)).1 = some f) :
    w.persistOne c = ⟨(w.desk.count (.fault f.code)).count (.failedSave c),
      (save w.store c (w.records c)).2, w.current⟩ := by
  rw [persistOne_eq, CountsFailures.faults_saving]
  simp only [h]
  rfl

theorem countsOnce_loadingLedgers (store : σ) : (loadingLedgers store).CountsOnce := by
  have hloading : ∀ c, (loading store c).CountsOnce := fun c =>
    (CountsFailures.countsOnce_loading store c).adapt fun _ => rfl
  unfold loadingLedgers
  exact (hloading .students).bind fun _ => (hloading .grades).bind fun _ =>
    (hloading .rewards).bind fun _ => Fallible.countsOnce_pure _

/-- Opening that succeeds counts nothing, and opening that fails counts its fault. -/
theorem open_counts (store : σ) (clock : κ) (tally : Tally) :
    (∃ f, «open» store clock tally = .error (f, tally.count (.fault f.code)) ∧
        loadLedgers store = .error f) ∨
      ∃ l, «open» store clock tally = .ok ⟨⟨l, clock, tally⟩, store, none⟩ ∧
        loadLedgers store = .ok l := by
  have hfaults : (loadingLedgers store).run.faults = codesOf (loadLedgers store) :=
    countsOnce_loadingLedgers store
  obtain ⟨f, hopen, hledgers⟩ | ⟨l, hopen, hledgers⟩ := open_cases store clock tally
  · rw [hfaults, hledgers] at hopen
    exact .inl ⟨f, hopen, hledgers⟩
  · rw [hfaults, hledgers] at hopen
    exact .inr ⟨l, hopen, hledgers⟩

theorem open_eq {store : σ} {l : Ledgers}
    (h : ∀ c, CollectionStore.load store c = .ok (recordsOf l c)) (clock : κ) (tally : Tally) :
    «open» store clock tally = .ok ⟨⟨l, clock, tally⟩, store, none⟩ := by
  have hledgers := loadLedgers_eq h
  obtain ⟨f, -, hfailed⟩ | ⟨m, hopen, hloaded⟩ := open_counts store clock tally
  · rw [hledgers] at hfailed
    cases hfailed
  · rw [hledgers] at hloaded
    cases hloaded
    exact hopen

end Counting

end Workbook

end Gradebook
