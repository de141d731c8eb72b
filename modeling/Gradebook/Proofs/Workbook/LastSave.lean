import Gradebook.Proofs.Workbook.Saving

/-!
# The last save of a collection

Every operation attempts to save what it changed, whatever became of earlier attempts.  A
collection is stored as it is in memory unless the latest attempt to save it failed, and then as it
was in memory when it was last saved, or when the workbook was opened.
-/

namespace Gradebook

open CollectionStore (save)

namespace Attempt

def lastSaved? (c : Collection) : List Attempt → Option (List c.Record)
  | [] => none
  | a :: earlier =>
    if h : a.collection = c ∧ a.succeeded = true then some (h.1 ▸ a.records)
    else lastSaved? c earlier

def lastFailed (c : Collection) : List Attempt → Bool
  | [] => false
  | a :: earlier => if a.collection = c then !a.succeeded else lastFailed c earlier

theorem lastSaved?_succeeded (c : Collection) (records : List c.Record) (earlier : List Attempt) :
    lastSaved? c (⟨c, records, true⟩ :: earlier) = some records := by
  rw [lastSaved?, dif_pos ⟨rfl, rfl⟩]

theorem lastSaved?_failed (c d : Collection) (records : List d.Record) (earlier : List Attempt) :
    lastSaved? c (⟨d, records, false⟩ :: earlier) = lastSaved? c earlier := by
  rw [lastSaved?, dif_neg fun h => Bool.false_ne_true h.2]

theorem lastSaved?_other {c d : Collection} (h : c ≠ d) (records : List d.Record)
    (succeeded : Bool) (earlier : List Attempt) :
    lastSaved? c (⟨d, records, succeeded⟩ :: earlier) = lastSaved? c earlier := by
  rw [lastSaved?, dif_neg fun hd => h hd.1.symm]

theorem lastFailed_self (c : Collection) (records : List c.Record) (succeeded : Bool)
    (earlier : List Attempt) :
    lastFailed c (⟨c, records, succeeded⟩ :: earlier) = !succeeded := by
  rw [lastFailed, if_pos rfl]

theorem lastFailed_other {c d : Collection} (h : c ≠ d) (records : List d.Record)
    (succeeded : Bool) (earlier : List Attempt) :
    lastFailed c (⟨d, records, succeeded⟩ :: earlier) = lastFailed c earlier := by
  rw [lastFailed, if_neg (Ne.symm h)]

def saving (a : Attempt) : (c : Collection) × List c.Record :=
  ⟨a.collection, a.records⟩

end Attempt

open Attempt (lastSaved? lastFailed)

/-! ### What a store holds -/

namespace Workbook

variable {σ κ : Type}

/-- The records that a store has to hold for a collection: those in memory, or where the latest
attempt to save them failed, those of the last save or else those it was opened with. -/
def stored (first : (c : Collection) → List c.Record) (w : Workbook (Unreliable σ) κ)
    (c : Collection) : List c.Record :=
  if lastFailed c w.store.attempts = true then (lastSaved? c w.store.attempts).getD (first c)
  else w.records c

variable [CollectionStore σ]

/-- The store holds the last save of every collection, and that is what is in memory unless the
save of the collection is still due or has failed. -/
structure Tracks (InOrder : σ → Prop) (first : (c : Collection) → List c.Record)
    (due : List Collection) (w : Workbook (Unreliable σ) κ) : Prop where
  inOrder : InOrder w.store.inner
  loaded : ∀ c, CollectionStore.load w.store c =
    .ok ((lastSaved? c w.store.attempts).getD (first c))
  upToDate : ∀ c, c ∉ due → lastFailed c w.store.attempts = false →
    (lastSaved? c w.store.attempts).getD (first c) = w.records c

theorem Tracks.load_eq {InOrder : σ → Prop} {first : (c : Collection) → List c.Record}
    {w : Workbook (Unreliable σ) κ} (h : Tracks InOrder first [] w) (c : Collection) :
    CollectionStore.load w.store c = .ok (w.stored first c) := by
  unfold stored
  cases hfailed : lastFailed c w.store.attempts with
  | true => rw [if_pos rfl, h.loaded c]
  | false => rw [if_neg Bool.false_ne_true, h.loaded c, h.upToDate c List.not_mem_nil hfailed]

theorem attempts_persistOne (w : Workbook (Unreliable σ) κ) (c : Collection) :
    (w.persistOne c).store.attempts =
      ⟨c, w.records c, (save w.store c (w.records c)).1.isNone⟩ :: w.store.attempts := by
  rw [store_persistOne, Unreliable.save_eq]

/-- An attempt leaves the collection as it succeeds or fails, and the others as they are. -/
theorem Tracks.load_persistOne {InOrder : σ → Prop} (hσ : SavesFaithfully σ InOrder)
    {first : (c : Collection) → List c.Record} {due : List Collection}
    {w : Workbook (Unreliable σ) κ} (h : Tracks InOrder first due w) (c d : Collection) :
    CollectionStore.load (w.persistOne c).store d =
      .ok ((lastSaved? d (w.persistOne c).store.attempts).getD (first d)) := by
  have hsaves := Unreliable.savesFaithfully hσ
  have hattempts := w.attempts_persistOne c
  by_cases hd : d = c
  · subst hd
    cases hfault : (save w.store d (w.records d)).1 with
    | none =>
      rw [hattempts, hfault, Option.isNone_none, Attempt.lastSaved?_succeeded, store_persistOne]
      exact hsaves.load_saved h.inOrder hfault
    | some f =>
      have hfailed : (save w.store d (w.records d)).1 ≠ none := by
        rw [hfault]
        exact Option.some_ne_none f
      rw [hattempts, hfault, Option.isNone_some, Attempt.lastSaved?_failed, store_persistOne,
        ← h.loaded d]
      exact hsaves.load_failed h.inOrder hfailed
  · rw [hattempts, Attempt.lastSaved?_other hd, store_persistOne, ← h.loaded d]
    exact hsaves.load_other _ h.inOrder hd

/-- A successful attempt makes the collection up to date, and others stay as they were. -/
theorem Tracks.upToDate_persistOne {InOrder : σ → Prop}
    {first : (c : Collection) → List c.Record} {c : Collection} {due : List Collection}
    {w : Workbook (Unreliable σ) κ} (h : Tracks InOrder first (c :: due) w) {d : Collection}
    (hdue : d ∉ due) (hfailed : lastFailed d (w.persistOne c).store.attempts = false) :
    (lastSaved? d (w.persistOne c).store.attempts).getD (first d) = w.records d := by
  rw [w.attempts_persistOne c] at hfailed ⊢
  by_cases hd : d = c
  · subst hd
    rw [Attempt.lastFailed_self] at hfailed
    have hsaved : (save w.store d (w.records d)).1.isNone = true := by simpa using hfailed
    rw [hsaved, Attempt.lastSaved?_succeeded]
    rfl
  · have hnotdue : d ∉ c :: due := by
      rw [List.mem_cons, not_or]
      exact ⟨hd, hdue⟩
    rw [Attempt.lastFailed_other hd] at hfailed
    rw [Attempt.lastSaved?_other hd]
    exact h.upToDate d hnotdue hfailed

theorem Tracks.persistOne {InOrder : σ → Prop} (hσ : SavesFaithfully σ InOrder)
    {first : (c : Collection) → List c.Record} {c : Collection} {due : List Collection}
    {w : Workbook (Unreliable σ) κ} (h : Tracks InOrder first (c :: due) w) :
    Tracks InOrder first due (w.persistOne c) := by
  refine ⟨?_, h.load_persistOne hσ c, ?_⟩
  · rw [store_persistOne]
    exact (Unreliable.savesFaithfully hσ).inOrder c _ h.inOrder
  · intro d hdue hfailed
    rw [records_of_memory (w.memory_persistOne c)]
    exact h.upToDate_persistOne hdue hfailed

theorem Tracks.persist {InOrder : σ → Prop} (hσ : SavesFaithfully σ InOrder)
    {first : (c : Collection) → List c.Record} {cs : List Collection}
    {w : Workbook (Unreliable σ) κ} (h : Tracks InOrder first cs w) :
    Tracks InOrder first [] (w.persist cs) := by
  unfold Workbook.persist
  induction cs generalizing w with
  | nil => exact h
  | cons c cs ih =>
    rw [List.foldl_cons]
    exact ih (h.persistOne hσ)

variable [IdClock κ]

theorem Tracks.perform {InOrder : σ → Prop} (hσ : SavesFaithfully σ InOrder)
    {first : (c : Collection) → List c.Record} {w : Workbook (Unreliable σ) κ}
    (h : Tracks InOrder first [] w) (o : Operation) :
    Tracks InOrder first [] (w.perform o).2 := by
  rw [perform_eq]
  apply Tracks.persist hσ
  -- before the saves the store is as it was, and what the effect has changed is due
  refine ⟨h.inOrder, h.loaded, ?_⟩
  intro c hdue hfailed
  have hsame : (w.unsaved o).records c = w.records c :=
    w.desk.effect_unsaved w.current o hdue
  rw [hsame]
  exact h.upToDate c List.not_mem_nil hfailed

theorem Tracks.after {InOrder : σ → Prop} (hσ : SavesFaithfully σ InOrder)
    {first : (c : Collection) → List c.Record} {w : Workbook (Unreliable σ) κ}
    (h : Tracks InOrder first [] w) (ops : List Operation) :
    Tracks InOrder first [] (w.after ops) :=
  after_induction (fun _ o hw => hw.perform hσ o) ops h

omit [IdClock κ] in
theorem tracks_open {InOrder : σ → Prop} {store : σ} (hstore : InOrder store)
    {refusal : Nat → Option Fault} {clock : κ} {tally : Tally} {w : Workbook (Unreliable σ) κ}
    (h : «open» (Unreliable.new store refusal) clock tally = .ok w) :
    Tracks InOrder w.records [] w := by
  obtain ⟨hw, hload⟩ := open_ok h
  have hnew : w.store = Unreliable.new store refusal := by rw [hw]
  refine ⟨?_, ?_, ?_⟩
  · rw [hnew]
    exact hstore
  · intro c
    rw [hnew]
    exact hload c
  · intro c _ _
    rw [hnew]
    rfl

/-! ### What an operation attempts -/

/-- From one workbook to a later one every changed collection was attempted to be saved, and
nothing but what the later one has in memory. -/
def AttemptsChanges (w v : Workbook (Unreliable σ) κ) : Prop :=
  ∃ made, v.store.attempts = made ++ w.store.attempts ∧
    (∀ a ∈ made, a.records = v.records a.collection) ∧
    ∀ c, v.records c ≠ w.records c → ∃ a ∈ made, a.collection = c

omit [IdClock κ] in
theorem attempts_persist (cs : List Collection) (w : Workbook (Unreliable σ) κ) :
    ∃ made, (w.persist cs).store.attempts = made ++ w.store.attempts ∧
      made.map Attempt.saving = cs.reverse.map fun c => ⟨c, w.records c⟩ := by
  unfold Workbook.persist
  induction cs generalizing w with
  | nil => exact ⟨[], rfl, rfl⟩
  | cons c cs ih =>
    obtain ⟨made, hattempts, hmade⟩ := ih (w.persistOne c)
    -- the latest attempt stands first, so this one goes to the end
    refine ⟨made ++ [⟨c, w.records c, (save w.store c (w.records c)).1.isNone⟩], ?_, ?_⟩
    · rw [List.foldl_cons, hattempts, attempts_persistOne, List.append_assoc]
      rfl
    · have hrecords : ∀ d, (w.persistOne c).records d = w.records d :=
        records_of_memory (w.memory_persistOne c)
      simp only [hrecords] at hmade
      rw [List.map_append, hmade, List.reverse_cons, List.map_append]
      rfl

omit [CollectionStore σ] [IdClock κ] in
theorem records_of_saving {cs : List Collection} {w : Workbook (Unreliable σ) κ}
    {made : List Attempt} (h : made.map Attempt.saving = cs.map fun c => ⟨c, w.records c⟩)
    {a : Attempt} (ha : a ∈ made) : a.records = w.records a.collection := by
  have hall : ∀ x ∈ made.map Attempt.saving, x.2 = w.records x.1 := by
    rw [h]
    intro x hx
    obtain ⟨c, -, rfl⟩ := List.mem_map.1 hx
    rfl
  exact hall a.saving (List.mem_map_of_mem ha)

theorem attemptsChanges_perform (w : Workbook (Unreliable σ) κ) (o : Operation) :
    AttemptsChanges w (w.perform o).2 := by
  rw [perform_eq]
  obtain ⟨made, hattempts, hmade⟩ :=
    attempts_persist (w.desk.effect w.current o).saves (w.unsaved o)
  have hrecords :=
    records_of_memory (memory_persist (w.desk.effect w.current o).saves (w.unsaved o))
  refine ⟨made, hattempts, ?_, ?_⟩
  · intro a ha
    rw [hrecords]
    exact records_of_saving hmade ha
  · intro c hchanged
    rw [hrecords] at hchanged
    have hsaved : c ∈ (w.desk.effect w.current o).saves := by
      cases hdue : decide (c ∈ (w.desk.effect w.current o).saves) with
      | true => exact of_decide_eq_true hdue
      | false => exact absurd (w.desk.effect_unsaved w.current o (of_decide_eq_false hdue)) hchanged
    have hsaving : ⟨c, (w.unsaved o).records c⟩ ∈ made.map Attempt.saving := by
      rw [hmade]
      exact List.mem_map_of_mem (List.mem_reverse.2 hsaved)
    obtain ⟨a, ha, hac⟩ := List.mem_map.1 hsaving
    exact ⟨a, ha, congrArg Sigma.fst hac⟩

/-! ### Runs with different refusals -/

/-- Two workbooks with the same memory that attempted the same saves. -/
structure Alike (w v : Workbook (Unreliable σ) κ) : Prop where
  memory : w.memory = v.memory
  attempted : w.store.attempts.map Attempt.saving = v.store.attempts.map Attempt.saving

omit [IdClock κ] in
theorem Alike.persist {w v : Workbook (Unreliable σ) κ} (h : Alike w v) (cs : List Collection) :
    Alike (w.persist cs) (v.persist cs) := by
  obtain ⟨made, hw, hmade⟩ := attempts_persist cs w
  obtain ⟨made', hv, hmade'⟩ := attempts_persist cs v
  refine ⟨?_, ?_⟩
  · rw [memory_persist, memory_persist, h.memory]
  · have hrecords : ∀ c, w.records c = v.records c := records_of_memory h.memory
    simp only [hrecords] at hmade
    rw [hw, hv, List.map_append, List.map_append, hmade, hmade', h.attempted]

theorem Alike.perform {w v : Workbook (Unreliable σ) κ} (h : Alike w v) (o : Operation) :
    (w.perform o).1 = (v.perform o).1 ∧ Alike (w.perform o).2 (v.perform o).2 := by
  -- failed saves are counted, so the desks agree but for their counters
  have hdesk : v.desk = w.desk.withTally v.desk.tally := by
    have hledgers : w.desk.ledgers = v.desk.ledgers := congrArg Memory.ledgers h.memory
    have hclock : w.desk.clock = v.desk.clock := congrArg Memory.clock h.memory
    rw [Desk.withTally, hledgers, hclock]
  have hcurrent : v.current = w.current := (congrArg Memory.current h.memory).symm
  obtain ⟨t, heffect⟩ := w.desk.effect_withTally v.desk.tally w.current o
  rw [← hdesk, ← hcurrent] at heffect
  have hstart : Alike (w.unsaved o) (v.unsaved o) := by
    refine ⟨?_, h.attempted⟩
    unfold Workbook.memory unsaved
    rw [heffect, hcurrent]
    rfl
  rw [perform_eq w, perform_eq v, heffect, hcurrent]
  exact ⟨rfl, hstart.persist _⟩

theorem Alike.run (ops : List Operation) {w v : Workbook (Unreliable σ) κ} (h : Alike w v) :
    (w.run ops).1 = (v.run ops).1 ∧ Alike (w.after ops) (v.after ops) := by
  induction ops generalizing w v with
  | nil => exact ⟨rfl, h⟩
  | cons o ops ih =>
    obtain ⟨hanswer, hnext⟩ := h.perform o
    obtain ⟨hanswers, hlast⟩ := ih hnext
    refine ⟨?_, hlast⟩
    rw [run_cons, run_cons, hanswer, hanswers]

omit [IdClock κ] in
theorem alike_open {store : σ} {refusal refusal' : Nat → Option Fault} {clock : κ} {tally : Tally}
    {w v : Workbook (Unreliable σ) κ}
    (hw : «open» (Unreliable.new store refusal) clock tally = .ok w)
    (hv : «open» (Unreliable.new store refusal') clock tally = .ok v) : Alike w v := by
  have hsame : loadLedgers (Unreliable.new store refusal) =
      loadLedgers (Unreliable.new store refusal') := rfl
  obtain ⟨f, hopen, -⟩ | ⟨l, hopen, hledgers⟩ :=
    open_cases (Unreliable.new store refusal) clock tally
  · rw [hw] at hopen
    cases hopen
  obtain ⟨f, hother, -⟩ | ⟨m, hother, hloaded⟩ :=
    open_cases (Unreliable.new store refusal') clock tally
  · rw [hv] at hother
    cases hother
  rw [hw] at hopen
  rw [hv] at hother
  rw [← hsame, hledgers] at hloaded
  cases hopen
  cases hother
  cases hloaded
  exact ⟨rfl, rfl⟩

end Workbook

/-! ### No save is lost -/

/-- A store under which no save is lost, whichever attempts to save are refused.  After every run
from opening, a collection is loaded as it is in memory unless the latest attempt to save it
failed, and then as it was at the last attempt that succeeded, or at opening.  Every operation
attempts to save what it changed, as it then is in memory.  Refusals change neither answers nor
memory nor what is attempted. -/
structure LosesNoSave {σ : Type} [CollectionStore σ] (store : σ) : Prop where
  stored : ∀ {κ : Type} [IdClock κ] {refusal : Nat → Option Fault} {clock : κ} {tally : Tally}
    {w : Workbook (Unreliable σ) κ},
    Workbook.open (Unreliable.new store refusal) clock tally = .ok w →
      ∀ ops c, CollectionStore.load (w.after ops).store c =
        .ok ((w.after ops).stored w.records c)
  attempted : ∀ {κ : Type} [IdClock κ] {refusal : Nat → Option Fault} {clock : κ} {tally : Tally}
    {w : Workbook (Unreliable σ) κ},
    Workbook.open (Unreliable.new store refusal) clock tally = .ok w →
      ∀ ops o, (w.after ops).AttemptsChanges ((w.after ops).perform o).2
  unaltered : ∀ {κ : Type} [IdClock κ] {refusal refusal' : Nat → Option Fault} {clock : κ}
    {tally : Tally} {w v : Workbook (Unreliable σ) κ},
    Workbook.open (Unreliable.new store refusal) clock tally = .ok w →
      Workbook.open (Unreliable.new store refusal') clock tally = .ok v →
        ∀ ops, (w.run ops).1 = (v.run ops).1 ∧ (w.after ops).Alike (v.after ops)

theorem SavesFaithfully.losesNoSave {σ : Type} [CollectionStore σ] {InOrder : σ → Prop}
    (h : SavesFaithfully σ InOrder) {store : σ} (hstore : InOrder store) : LosesNoSave store where
  stored := by
    intro κ _ refusal clock tally w hopen ops c
    exact ((Workbook.tracks_open hstore hopen).after h ops).load_eq c
  attempted := by
    intro κ _ refusal clock tally w hopen ops o
    exact Workbook.attemptsChanges_perform (w.after ops) o
  unaltered := by
    intro κ _ refusal refusal' clock tally w v hw hv ops
    exact (Workbook.alike_open hw hv).run ops

/-- No save is lost in memory, nor in a directory that is settled, which every directory is that is
there or whose path has no steps up. -/
theorem no_save_is_lost :
    (∀ s : MemoryStore, LosesNoSave s) ∧ (∀ s : FolderStore, s.IsSettled → LosesNoSave s) ∧
      ∀ s : FolderStore, s.tree.IsWellFormed →
        (s.tree.isDirectory s.directory = true ∨ ".." ∉ s.directory) → s.IsSettled := by
  refine ⟨?_, ?_, ?_⟩
  · intro s
    exact MemoryStore.savesFaithfully.losesNoSave trivial
  · intro s hs
    exact FolderStore.savesFaithfully.losesNoSave hs
  · intro s htree hpath
    exact FolderStore.isSettled_of_wellFormed htree hpath

theorem no_save_is_lost_after_refusal :
    let refusal : Nat → Option Fault := fun n =>
      if n = 1 then some (Fault.storage "full").value else none
    let w : Workbook (Unreliable MemoryStore) SequentialClock :=
      ⟨⟨.empty, .new .epoch 0, .empty⟩, .new .empty refusal, none⟩
    LosesNoSave (FolderStore.mk .empty ["data"]) ∧
      Workbook.open w.store w.desk.clock w.desk.tally = .ok w ∧
      CollectionStore.load (w.after [.addStudent "Kim", .addStudent "Lee"]).store .students =
        .ok ((w.after [.addStudent "Kim"]).records .students) := by
  intro refusal w
  have hsettled : (FolderStore.mk .empty ["data"]).IsSettled :=
    no_save_is_lost.2.2 _ FileTree.isWellFormed_empty (.inr (by decide))
  have hopen : Workbook.open w.store w.desk.clock w.desk.tally = .ok w := rfl
  have hload := (no_save_is_lost.1 .empty).stored hopen [.addStudent "Kim", .addStudent "Lee"]
    .students
  exact ⟨no_save_is_lost.2.1 _ hsettled, hopen, hload⟩

theorem save_reveals_hidden_file : ¬ LosesNoSave FolderStore.hidden := by
  intro h
  let w : Workbook (Unreliable FolderStore) SequentialClock :=
    ⟨⟨.empty, .new .epoch 0, .empty⟩, .new .hidden fun _ => none, none⟩
  have hempty : ∀ c, CollectionStore.load w.store c = .ok (w.records c) := by
    intro c
    have hload := FolderStore.load_hidden c
    cases c <;> exact hload
  have hopen := Workbook.open_eq hempty w.desk.clock w.desk.tally
  have hafter : w.after [.addStudent "Kim"] =
      (w.unsaved (.addStudent "Kim")).persistOne .students :=
    w.perform_addStudent "Kim" (by decide)
  have hmemory : (w.after [.addStudent "Kim"]).records .grades = [] := by
    rw [hafter, Workbook.records_of_memory (Workbook.memory_persistOne _ _)]
    rfl
  have hattempts : lastFailed .grades (w.after [.addStudent "Kim"]).store.attempts = false := by
    rw [hafter, Workbook.attempts_persistOne, Attempt.lastFailed_other (by decide)]
    rfl
  have hload := h.stored hopen [.addStudent "Kim"] .grades
  rw [Workbook.stored, hattempts, if_neg Bool.false_ne_true, hmemory, hafter,
    Workbook.store_persistOne] at hload
  have hfound := (FolderStore.save_hidden ((w.unsaved (.addStudent "Kim")).records .students)).2
  have hrevealed := hfound.symm.trans hload
  cases hrevealed

end Gradebook
