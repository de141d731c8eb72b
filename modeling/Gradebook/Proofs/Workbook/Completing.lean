import Gradebook.Proofs.Ledger.Homework
import Gradebook.Proofs.Workbook.Identity

/-!
# Completing homework in a workbook

Whether an item is completed, or why not, depends on the roster alone, and in memory the roster is
all that changes.  In every state that is reached from an empty store, whichever saves fail and
wherever the workbook is opened anew, the identities of students are among those drawn, each once.
-/

namespace Gradebook

namespace Roster

/-- The answer to completing an item. -/
def completion (r : Roster) (id : StudentId) (homework : RecordId) : Except Fault Unit :=
  if !r.has id then .error (Fault.studentNotFound id).value
  else if !r.hasHomework id homework then .error (Fault.homeworkNotFound homework).value
  else .ok ()

theorem has_of_hasHomework {r : Roster} {id : StudentId} {homework : RecordId}
    (h : r.hasHomework id homework = true) : r.has id = true := by
  obtain ⟨s, hs, -⟩ := hasHomework_iff.1 h
  rw [has, hs]
  rfl

theorem completion_eq_ok_iff {r : Roster} {id : StudentId} {homework : RecordId} :
    r.completion id homework = .ok () ↔ r.hasHomework id homework = true := by
  unfold completion
  cases hitem : r.hasHomework id homework with
  | false => cases r.has id <;> simp
  | true =>
    rw [has_of_hasHomework hitem]
    simp

theorem completion_unknown {r : Roster} {id : StudentId} (h : id ∉ r.ids) (homework : RecordId) :
    r.completion id homework = .error (Fault.studentNotFound id).value := by
  rw [← has_iff, Bool.not_eq_true] at h
  simp only [completion, h, Bool.not_false, if_true]

theorem completion_unowned {r : Roster} (hr : r.ids.Nodup) {s : Student} (hs : s ∈ r)
    {homework : RecordId} (h : ∀ item ∈ s.homework, item.id ≠ homework) :
    r.completion s.id homework = .error (Fault.homeworkNotFound homework).value := by
  have hstudent : r.has s.id = true := (has_iff r s.id).2 (List.mem_map_of_mem hs)
  have hitem : r.hasHomework s.id homework = false := by
    rw [← Bool.not_eq_true, hasHomework_iff]
    rintro ⟨t, ht, hmem⟩
    rw [get?, find?_key hr hs] at ht
    cases ht
    obtain ⟨item, hin, hid⟩ := List.mem_map.1 hmem
    exact h item hin hid
  simp only [completion, hstudent, hitem, Bool.not_true, Bool.not_false, Bool.false_eq_true,
    if_true, if_false]

theorem completion_completeHomework (r : Roster) (id : StudentId) (homework : RecordId)
    (other : StudentId) (item : RecordId) :
    (r.completeHomework id homework).completion other item = r.completion other item := by
  simp only [completion, has_completeHomework, hasHomework_completeHomework]

end Roster

/-! ### One completion -/

def Memory.withRoster {κ : Type} (m : Memory κ) (r : Roster) : Memory κ :=
  { m with ledgers := { m.ledgers with roster := r } }

namespace Workbook

variable {σ κ : Type} [CollectionStore σ]

theorem answer_completeHomework (w : Workbook σ κ) (id : StudentId) (homework : RecordId) :
    (w.completeHomework id homework).1 = w.roster.completion id homework := by
  unfold completeHomework Roster.completion
  split
  · rfl
  · split
    · rfl
    · rfl

theorem completeHomework_refused {w : Workbook σ κ} {id : StudentId} {homework : RecordId}
    (h : w.roster.hasHomework id homework = false) :
    ∃ f, w.completeHomework id homework = w.fail f := by
  unfold completeHomework
  rw [h]
  split
  · exact ⟨_, rfl⟩
  · exact ⟨_, rfl⟩

theorem completeHomework_owned {w : Workbook σ κ} {id : StudentId} {homework : RecordId}
    (h : w.roster.hasHomework id homework = true) :
    w.completeHomework id homework =
      (.ok (), (w.withRoster (w.roster.completeHomework id homework)).persist [.students]) := by
  have hstudent := Roster.has_of_hasHomework h
  simp only [completeHomework, hstudent, h, Bool.not_true, Bool.false_eq_true, if_false]

theorem memory_completeHomework (w : Workbook σ κ) (id : StudentId) (homework : RecordId) :
    (w.completeHomework id homework).2.memory =
      w.memory.withRoster (w.roster.completeHomework id homework) := by
  cases hitem : w.roster.hasHomework id homework with
  | false =>
    obtain ⟨f, hfail⟩ := completeHomework_refused hitem
    rw [hfail, Roster.completeHomework_missing hitem]
    rfl
  | true =>
    rw [completeHomework_owned hitem, memory_persist]
    rfl

theorem roster_completeHomework (w : Workbook σ κ) (id : StudentId) (homework : RecordId) :
    (w.completeHomework id homework).2.roster = w.roster.completeHomework id homework :=
  congrArg (fun m : Memory κ => m.ledgers.roster) (w.memory_completeHomework id homework)

theorem memory_completeHomework_twice (w : Workbook σ κ) (id : StudentId) (homework : RecordId)
    (other : StudentId) (item : RecordId) :
    ((w.completeHomework id homework).2.completeHomework other item).2.memory =
      w.memory.withRoster ((w.roster.completeHomework id homework).completeHomework other item) := by
  rw [memory_completeHomework, memory_completeHomework, roster_completeHomework]
  rfl

theorem answer_completeHomework_after (w : Workbook σ κ) (id : StudentId) (homework : RecordId)
    (other : StudentId) (item : RecordId) :
    ((w.completeHomework id homework).2.completeHomework other item).1 =
      (w.completeHomework other item).1 := by
  rw [answer_completeHomework, answer_completeHomework, roster_completeHomework,
    Roster.completion_completeHomework]

/-- What completing homework does: which completions succeed and how the others fail, that those
leave memory and store alone, what one item a success changes, and that completions can be repeated
and can be made in either order. -/
structure CompletesHomework (w : Workbook σ κ) : Prop where
  succeeds_iff : ∀ id homework, (w.completeHomework id homework).1 = .ok () ↔
    ∃ s ∈ w.roster, s.id = id ∧ ∃ item ∈ s.homework, item.id = homework
  unknown : ∀ id homework, (∀ s ∈ w.roster, s.id ≠ id) →
    (w.completeHomework id homework).1 = .error (Fault.studentNotFound id).value
  unowned : ∀ s ∈ w.roster, ∀ homework, (∀ item ∈ s.homework, item.id ≠ homework) →
    (w.completeHomework s.id homework).1 = .error (Fault.homeworkNotFound homework).value
  failed : ∀ id homework f, (w.completeHomework id homework).1 = .error f →
    (w.completeHomework id homework).2.memory = w.memory ∧
      (w.completeHomework id homework).2.store = w.store
  done : ∀ id homework, (w.completeHomework id homework).1 = .ok () → ∃ s item next,
    w.roster.Completes id homework s item next ∧
      (w.completeHomework id homework).2.memory = w.memory.withRoster next ∧
      (∃ t, next.get? id = some t ∧ t.incompleteHomework.length +
        (if item.completed then 0 else 1) = s.incompleteHomework.length) ∧
      ∀ other, other ≠ id → next.get? other = w.roster.get? other
  again : ∀ id homework, (w.completeHomework id homework).1 = .ok () →
    ((w.completeHomework id homework).2.completeHomework id homework).1 = .ok () ∧
      ((w.completeHomework id homework).2.completeHomework id homework).2.memory =
        (w.completeHomework id homework).2.memory
  commute : ∀ id homework other item,
    ((w.completeHomework other item).2.completeHomework id homework).1 =
        (w.completeHomework id homework).1 ∧
      ((w.completeHomework id homework).2.completeHomework other item).2.memory =
        ((w.completeHomework other item).2.completeHomework id homework).2.memory

theorem completesHomework {w : Workbook σ κ} (h : (Roster.ids w.roster).Nodup) :
    w.CompletesHomework where
  succeeds_iff := by
    intro id homework
    rw [answer_completeHomework, Roster.completion_eq_ok_iff, Roster.hasHomework_iff_exists h]
  unknown := by
    intro id homework hunknown
    rw [answer_completeHomework]
    apply Roster.completion_unknown
    rw [Roster.ids, List.mem_map]
    rintro ⟨s, hs, hid⟩
    exact hunknown s hs hid
  unowned := by
    intro s hs homework hunowned
    rw [answer_completeHomework]
    exact Roster.completion_unowned h hs hunowned
  failed := by
    intro id homework f hfailed
    have hitem : w.roster.hasHomework id homework = false := by
      rw [← Bool.not_eq_true, ← Roster.completion_eq_ok_iff, ← answer_completeHomework, hfailed]
      intro hok
      cases hok
    obtain ⟨g, hfail⟩ := completeHomework_refused hitem
    rw [hfail]
    exact ⟨rfl, rfl⟩
  done := by
    intro id homework hdone
    rw [answer_completeHomework, Roster.completion_eq_ok_iff] at hdone
    obtain ⟨s, item, hcompletes⟩ := Roster.completes hdone
    obtain ⟨hcount, hothers⟩ := hcompletes.count
    exact ⟨s, item, _, hcompletes, w.memory_completeHomework id homework, hcount, hothers⟩
  again := by
    intro id homework hdone
    rw [answer_completeHomework_after, memory_completeHomework_twice, memory_completeHomework,
      Roster.completeHomework_idem]
    exact ⟨hdone, rfl⟩
  commute := by
    intro id homework other item
    rw [answer_completeHomework_after, memory_completeHomework_twice,
      memory_completeHomework_twice, Roster.completeHomework_comm]
    exact ⟨rfl, rfl⟩

end Workbook

/-! ### Students enrolled along a run -/

theorem Desk.Change.enrolled {κ : Type} [IdClock κ] {d next : Desk κ}
    {current : Option StudentId} {o : Operation} {draws : List Draw} {names : List String}
    (h : d.Change current o draws next) (hids : (Roster.ids d.ledgers.roster).Sublist names) :
    (Roster.ids next.ledgers.roster).Sublist (names ++ IdClock.ids d.clock draws) := by
  cases h with
  | nothing o t => exact List.sublist_append_of_sublist_left hids
  | added hname =>
    simp only [withStudent, withRoster, Roster.ids_add]
    exact hids.append (List.Sublist.refl _)
  | @carriedOut id input c hcurrent hid hparse =>
    have hsame := ids_foldl_apply id c.actions d
    simp only [count, withTally, hsame]
    exact List.sublist_append_of_sublist_left hids
  | @completed id homework hid hhomework =>
    have hsame := Roster.ids_update d.ledgers.roster id (Student.id_completing homework)
    simp only [withRoster, Roster.completeHomework_eq, hsame]
    exact List.sublist_append_of_sublist_left hids
  | @reset id hid =>
    have hsame := Roster.ids_update d.ledgers.roster id
      (f := fun s => { s with stamps := .zero }) fun _ => rfl
    simp only [withRoster, Roster.resetStamps, hsame]
    exact List.sublist_append_of_sublist_left hids

namespace Workbook

variable {σ κ : Type} [CollectionStore σ]

/-- A workbook over a store in order, where the students in memory and in the store were given some
of the names, in their order. -/
structure Enrolled (InOrder : σ → Prop) (names : List String) (w : Workbook σ κ) : Prop where
  memory : (Roster.ids w.roster).Sublist names
  inOrder : InOrder w.store
  stored : ∀ roster : Roster, CollectionStore.load w.store .students = .ok roster →
    roster.ids.Sublist names

variable {InOrder : σ → Prop} {names : List String} {w : Workbook σ κ}

theorem Enrolled.persist (hσ : SavesFaithfully σ InOrder) (cs : List Collection)
    (h : Enrolled InOrder names w) : Enrolled InOrder names (w.persist cs) := by
  have hroster : (w.persist cs).roster = w.roster :=
    congrArg (fun m : Memory κ => m.ledgers.roster) (memory_persist cs w)
  obtain ⟨hin, hload⟩ := load_persist hσ cs h.inOrder
  refine ⟨hroster ▸ h.memory, hin, ?_⟩
  intro roster hroster
  rcases hload .students with hsaved | hkept
  · rw [hsaved] at hroster
    cases hroster
    exact h.memory
  · rw [hkept] at hroster
    exact h.stored roster hroster

/-- A reopening finds the roster of the store, or leaves the workbook as it is. -/
theorem Enrolled.reopen (h : Enrolled InOrder names w) : Enrolled InOrder names w.reopen.2 := by
  obtain ⟨f, hreopen⟩ | ⟨l, hreopen, hload⟩ := w.reopen_cases
  · rw [hreopen]
    exact ⟨h.memory, h.inOrder, h.stored⟩
  · rw [hreopen]
    exact ⟨h.stored _ (hload .students), h.inOrder, h.stored⟩

variable [IdClock κ]

theorem Enrolled.perform (hσ : SavesFaithfully σ InOrder) (h : Enrolled InOrder names w)
    (o : Operation) :
    Enrolled InOrder (names ++ IdClock.ids w.desk.clock (w.desk.draws w.current o))
      (w.perform o).2 := by
  rw [perform_eq]
  apply Enrolled.persist hσ
  refine ⟨(w.desk.effect_change w.current o).enrolled h.memory, h.inOrder, ?_⟩
  intro roster hroster
  exact List.sublist_append_of_sublist_left (h.stored roster hroster)

theorem Enrolled.afterMoves (hσ : SavesFaithfully σ InOrder) (moves : List Move)
    (h : Enrolled InOrder names w) :
    Enrolled InOrder (names ++ IdClock.ids w.desk.clock (w.drawsOfMoves moves))
      (w.afterMoves moves) :=
  keeps_afterMoves (P := Enrolled InOrder) (fun _ => rfl)
    (fun clock draws more => IdClock.ids_append draws more clock)
    (fun o henrolled => henrolled.perform hσ o) Enrolled.reopen moves h

end Workbook

/-! ### Reachable states -/

/-- A store from which every run, with reopenings in it and whichever saves fail, leaves a workbook
that completes homework as it should, as long as the clock draws no identity twice. -/
def CompletesThroughout {σ : Type} [CollectionStore σ] (store : σ) : Prop :=
  ∀ {κ : Type} [IdClock κ] (clock : κ) (tally : Tally), ∃ w : Workbook σ κ,
    Workbook.open store clock tally = .ok w ∧
      ∀ moves, (IdClock.ids clock (w.drawsOfMoves moves)).Nodup →
        (w.afterMoves moves).CompletesHomework

theorem SavesFaithfully.completesThroughout {σ : Type} [CollectionStore σ] {InOrder : σ → Prop}
    (hσ : SavesFaithfully σ InOrder) {store : σ} (hin : InOrder store)
    (hstore : ∀ c, CollectionStore.load store c = .ok []) : CompletesThroughout store := by
  intro κ _ clock tally
  obtain ⟨counted, hopen⟩ := Workbook.open_empty hstore clock tally
  refine ⟨_, hopen, ?_⟩
  intro moves hdrawn
  have hempty : Workbook.Enrolled InOrder [] (κ := κ)
      ⟨⟨.empty, clock, counted⟩, store, none⟩ := by
    refine ⟨List.Sublist.refl [], hin, ?_⟩
    intro roster hroster
    rw [hstore] at hroster
    cases hroster
    exact List.Sublist.refl []
  have hafter := (hempty.afterMoves hσ moves).memory
  exact Workbook.completesHomework (hafter.nodup hdrawn)

/-- From an empty store, in every state that operations reach while the clock draws no identity
twice, homework is completed just where the student is there and has the item: that one item is
marked and nothing else in memory is changed, doing it again changes nothing, and the order of
completions does not matter.  In memory and in a directory this holds whichever saves are refused
and wherever the workbook is opened anew. -/
theorem homework_is_completed_exactly :
    (∀ {σ κ : Type} [CollectionStore σ] [IdClock κ] (store : σ) (clock : κ) (tally : Tally),
      (∀ c, CollectionStore.load store c = .ok []) → ∃ w : Workbook σ κ,
        Workbook.open store clock tally = .ok w ∧
          ∀ ops, (IdClock.ids clock (w.draws ops)).Nodup → (w.after ops).CompletesHomework) ∧
      (∀ s : MemoryStore, (∀ c, CollectionStore.load s c = .ok []) →
        CompletesThroughout s ∧ ∀ refusal, CompletesThroughout (Unreliable.new s refusal)) ∧
      ∀ s : FolderStore, s.IsEmpty →
        CompletesThroughout s ∧ ∀ refusal, CompletesThroughout (Unreliable.new s refusal) := by
  refine ⟨?_, ?_, ?_⟩
  · intro σ κ _ _ store clock tally hstore
    obtain ⟨counted, hopen⟩ := Workbook.open_empty hstore clock tally
    refine ⟨_, hopen, ?_⟩
    intro ops hdrawn
    have hnamed := Workbook.named_after ops (w := ⟨⟨.empty, clock, counted⟩, store, none⟩) .empty
    have hdistinct := hnamed.records.nodup_iff.2 hdrawn
    exact Workbook.completesHomework ((Ledgers.ids_sublist _).nodup hdistinct)
  · intro s hs
    have hσ := MemoryStore.savesFaithfully
    exact ⟨hσ.completesThroughout trivial hs, fun refusal =>
      (Unreliable.savesFaithfully hσ).completesThroughout trivial hs⟩
  · intro s hs
    have hσ := FolderStore.savesFaithfully
    have hload : ∀ c, CollectionStore.load s c = .ok [] := fun c => (hs c).1
    exact ⟨hσ.completesThroughout hs.isSettled hload, fun refusal =>
      (Unreliable.savesFaithfully hσ).completesThroughout hs.isSettled hload⟩

/-- Lee is refused the homework of Kim, and a stranger is not told of it. -/
theorem homework_of_kim_is_completed_exactly :
    let w : Workbook MemoryStore SequentialClock := ⟨⟨.empty, .new .epoch 0, .empty⟩, .empty, none⟩
    let moves : List Move := [.operation (.addStudent "Kim"), .operation (.addStudent "Lee"),
      .operation (.select "student-1"), .operation (.runCommand "!homework algebra 12"),
      .operation (.runCommand "!penalty 2"), .reopening]
    let v := w.afterMoves moves
    Workbook.open w.store w.desk.clock w.desk.tally = .ok w ∧
      (IdClock.ids w.desk.clock (w.drawsOfMoves moves)).Nodup ∧
      v.CompletesHomework ∧
      (v.completeHomework "student-1" "homework-4").1 = .ok () ∧
      (v.completeHomework "student-2" "homework-4").1 =
        .error (Fault.homeworkNotFound "homework-4").value ∧
      (v.completeHomework "student-3" "homework-4").1 =
        .error (Fault.studentNotFound "student-3").value := by
  intro w moves v
  have hdrawn : (IdClock.ids w.desk.clock (w.drawsOfMoves moves)).Nodup := by decide
  obtain ⟨opened, hopen, hcompletes⟩ :=
    (homework_is_completed_exactly.2.1 .empty fun c => rfl).1 w.desk.clock .empty
  cases hopen
  have hids : v.roster.ids = ["student-1", "student-2"] := by decide +kernel
  have hitem : v.roster.hasHomework "student-1" "homework-4" = true := by decide +kernel
  have hother : v.roster.hasHomework "student-2" "homework-4" = false := by decide +kernel
  have hlee : v.roster.has "student-2" = true := by
    rw [Roster.has_iff, hids]
    decide
  have hstranger : "student-3" ∉ v.roster.ids := by
    rw [hids]
    decide
  refine ⟨rfl, hdrawn, hcompletes moves hdrawn, ?_, ?_, ?_⟩
  · rw [Workbook.answer_completeHomework, Roster.completion_eq_ok_iff, hitem]
  · rw [Workbook.answer_completeHomework, Roster.completion, hlee, hother]
    rfl
  · rw [Workbook.answer_completeHomework, Roster.completion_unknown hstranger]

end Gradebook
