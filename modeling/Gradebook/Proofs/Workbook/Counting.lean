import Gradebook.Proofs.Workbook.Identity
import Gradebook.Proofs.Workbook.LastSave

/-!
# What the counters say about a run

Every typed line is counted once, as applied under the kind of its command or else as rejected.
Every answer that is an error and every save that fails is counted once as a fault, and the failed
save once more for its collection; nothing else is counted.  That holds whichever saves are refused
and however the store is changed from outside, so that any reopening may fail.
-/

namespace Gradebook

open CollectionStore (loading save saving)
open Fault (IsMade)

/-- A step of a run: a move on the workbook, or a change of the store from outside. -/
inductive Happening (σ : Type) where
  | move (m : Move)
  | outside (store : σ)

def Answer.isError : Answer → Bool
  | .student (.error _) | .done (.error _) => true
  | .student (.ok _) | .done (.ok _) | .outcome _ => false

/-- A workbook and the move that is made on it. -/
structure Moment (σ κ : Type) where
  before : Workbook σ κ
  move : Move

namespace Moment

variable {σ κ : Type} [CollectionStore σ] [IdClock κ]

def isError (m : Moment σ κ) : Bool :=
  match m.move with
  | .operation o => (m.before.perform o).1.isError
  | .reopening => (Answer.done m.before.reopen.1).isError

def isTyped (m : Moment σ κ) : Bool :=
  match m.move with
  | .operation (.runCommand _) => true
  | _ => false

/-- The command of a typed line, where it is one and a student on the roster is selected. -/
def command? (m : Moment σ κ) : Option Command :=
  match m.move with
  | .operation (.runCommand input) =>
    if m.before.currentStudent.isSome then (Command.parse input).toOption else none
  | _ => none

def applies (kind : String) (m : Moment σ κ) : Bool :=
  m.command?.any (·.kind = kind)

def isRejected (m : Moment σ κ) : Bool :=
  m.isTyped && m.command?.isNone

end Moment

namespace Workbook

variable {σ κ : Type} [CollectionStore σ] [IdClock κ]

def happen (w : Workbook (Unreliable σ) κ) : Happening σ → Workbook (Unreliable σ) κ
  | .move m => w.move m
  | .outside store => { w with store := { w.store with inner := store } }

def afterAll (w : Workbook (Unreliable σ) κ) (run : List (Happening σ)) :
    Workbook (Unreliable σ) κ :=
  run.foldl happen w

def moments (w : Workbook (Unreliable σ) κ) :
    List (Happening σ) → List (Moment (Unreliable σ) κ)
  | [] => []
  | .move m :: rest => ⟨w, m⟩ :: (w.happen (.move m)).moments rest
  | .outside store :: rest => (w.happen (.outside store)).moments rest

end Workbook

/-! ### Accounts -/

def Attempt.failed (a : Attempt) : Bool :=
  !a.succeeded

def Attempt.failedFor (c : Collection) (a : Attempt) : Bool :=
  a.failed && a.collection = c

/-- Counters that account for the moves made and the saves attempted. -/
structure Tally.Accounts {σ κ : Type} [CollectionStore σ] [IdClock κ] (t : Tally)
    (moments : List (Moment σ κ)) (attempts : List Attempt) : Prop where
  commands : t.familyTotal .commands = moments.countP (·.isTyped)
  applied : ∀ kind, t.labelled .commands [("kind", kind), ("outcome", "applied")] =
    moments.countP (·.applies kind)
  rejected : t.labelled .commands [("kind", "unknown"), ("outcome", "rejected")] =
    moments.countP (·.isRejected)
  failedSaves : ∀ c : Collection, t.labelled .failedSaves [("collection", c.name)] =
    attempts.countP (·.failedFor c)
  faults : t.familyTotal .faults = moments.countP (·.isError) + attempts.countP (·.failed)

section Accounts

variable {σ κ : Type} [CollectionStore σ] [IdClock κ]

/-- What a move alone does to the counters, before anything is saved. -/
inductive Moment.Books (m : Moment σ κ) (t : Tally) : Tally → Prop
  | quiet (htyped : m.isTyped = false) (herror : m.isError = false) : Books m t t
  | failed (code : FaultCode) (htyped : m.isTyped = false) (herror : m.isError = true) :
      Books m t (t.count (.fault code))
  | applied {c : Command} (htyped : m.isTyped = true) (herror : m.isError = false)
      (hcommand : m.command? = some c) : Books m t (t.count (.applied c.kind))
  | rejected (htyped : m.isTyped = true) (herror : m.isError = false)
      (hcommand : m.command? = none) : Books m t (t.count .rejected)

omit [CollectionStore σ] [IdClock κ] in
theorem Moment.command?_of_untyped {m : Moment σ κ} (h : m.isTyped = false) :
    m.command? = none := by
  unfold isTyped at h
  unfold command?
  split at h
  next => cases h
  next hmove => rfl

namespace Tally.Accounts

variable {t : Tally} {moments : List (Moment σ κ)} {attempts : List Attempt}

theorem empty : Tally.empty.Accounts (σ := σ) (κ := κ) [] [] where
  commands := rfl
  applied _ := rfl
  rejected := rfl
  failedSaves _ := rfl
  faults := rfl

theorem books (h : t.Accounts moments attempts) {m : Moment σ κ} {next : Tally}
    (hbooks : m.Books t next) : next.Accounts (moments ++ [m]) attempts := by
  obtain ⟨hcommands, happlied, hrejected, hsaves, hfaults⟩ := h
  cases hbooks with
  | quiet htyped herror =>
    have hcommand := Moment.command?_of_untyped htyped
    constructor <;> simp [Moment.applies, Moment.isRejected, *]
  | failed code htyped herror =>
    have hcommand := Moment.command?_of_untyped htyped
    constructor <;>
      simp [familyTotal_count, labelled_count, Counter.family, Moment.applies, Moment.isRejected, *]
    omega
  | applied htyped herror hcommand =>
    constructor <;>
      simp [familyTotal_count, labelled_count, Counter.family, Counter.labels, Moment.applies,
        Moment.isRejected, *]
  | rejected htyped herror hcommand =>
    constructor <;>
      simp [familyTotal_count, labelled_count, Counter.family, Counter.labels, Moment.applies,
        Moment.isRejected, *]

theorem saved (h : t.Accounts moments attempts) (c : Collection) (records : List c.Record) :
    t.Accounts moments (⟨c, records, true⟩ :: attempts) := by
  obtain ⟨hcommands, happlied, hrejected, hsaves, hfaults⟩ := h
  constructor <;> simp [Attempt.failedFor, Attempt.failed, *]

theorem unsaved (h : t.Accounts moments attempts) (code : FaultCode) (c : Collection)
    (records : List c.Record) :
    ((t.count (.fault code)).count (.failedSave c)).Accounts moments
      (⟨c, records, false⟩ :: attempts) := by
  obtain ⟨hcommands, happlied, hrejected, hsaves, hfaults⟩ := h
  constructor <;>
    simp [familyTotal_count, labelled_count, Counter.family, Counter.labels, Collection.name_inj,
      Attempt.failedFor, Attempt.failed, List.countP_cons, *]
  omega

end Tally.Accounts

/-! ### What a move books -/

/-- An operation is a typed line, or it fails and saves nothing, or it leaves the counters alone. -/
theorem Desk.effect_answer (d : Desk κ) (current : Option StudentId) (o : Operation) :
    (∃ input, o = .runCommand input) ∨
      ((∀ input, o ≠ .runCommand input) ∧ ∃ f, IsMade f ∧
        (d.effect current o).answer.isError = true ∧ (d.effect current o).desk = d.failed f ∧
        (d.effect current o).saves = []) ∨
      ((∀ input, o ≠ .runCommand input) ∧ (d.effect current o).answer.isError = false ∧
        (d.effect current o).desk.tally = d.tally) := by
  cases o with
  | runCommand input => exact .inl ⟨input, rfl⟩
  | addStudent name =>
    simp only [effect]
    split
    · exact .inr (.inl ⟨by simp, _, .invalidInput _, rfl, rfl, rfl⟩)
    · exact .inr (.inr ⟨by simp, rfl, rfl⟩)
  | select id =>
    simp only [effect]
    cases d.ledgers.roster.get? id with
    | none => exact .inr (.inl ⟨by simp, _, .studentNotFound _, rfl, rfl, rfl⟩)
    | some s => exact .inr (.inr ⟨by simp, rfl, rfl⟩)
  | completeHomework id homework =>
    simp only [effect]
    split
    · exact .inr (.inl ⟨by simp, _, .studentNotFound _, rfl, rfl, rfl⟩)
    · split
      · exact .inr (.inl ⟨by simp, _, .homeworkNotFound _, rfl, rfl, rfl⟩)
      · exact .inr (.inr ⟨by simp, rfl, rfl⟩)
  | resetStamps id =>
    simp only [effect]
    split
    · exact .inr (.inl ⟨by simp, _, .studentNotFound _, rfl, rfl, rfl⟩)
    · exact .inr (.inr ⟨by simp, rfl, rfl⟩)

namespace Workbook

omit [CollectionStore σ] [IdClock κ] in
theorem currentStudent_isSome_iff (w : Workbook σ κ) :
    w.currentStudent.isSome = true ↔
      ∃ id, w.current = some id ∧ id ∈ Roster.ids w.desk.ledgers.roster := by
  unfold currentStudent
  cases w.current with
  | none => simp
  | some id =>
    have hhas : (w.roster.get? id).isSome = true ↔ id ∈ Roster.ids w.desk.ledgers.roster :=
      Roster.has_iff _ id
    simp [hhas]

theorem accounts_persistOne [CountsFailures σ] {w : Workbook (Unreliable σ) κ}
    {moments : List (Moment (Unreliable σ) κ)}
    (h : w.desk.tally.Accounts moments w.store.attempts) (c : Collection) :
    (w.persistOne c).desk.tally.Accounts moments (w.persistOne c).store.attempts := by
  rw [attempts_persistOne]
  cases hsave : (save w.store c (w.records c)).1 with
  | none =>
    rw [persistOne_saved hsave]
    exact h.saved c _
  | some f =>
    rw [persistOne_failed hsave]
    exact h.unsaved f.code c _

theorem accounts_persist [CountsFailures σ] (cs : List Collection) {w : Workbook (Unreliable σ) κ}
    {moments : List (Moment (Unreliable σ) κ)}
    (h : w.desk.tally.Accounts moments w.store.attempts) :
    (w.persist cs).desk.tally.Accounts moments (w.persist cs).store.attempts := by
  induction cs generalizing w with
  | nil => exact h
  | cons c cs ih => exact ih (accounts_persistOne h c)

/-- A typed line is booked as its command, or else as rejected. -/
theorem books_runCommand (w : Workbook σ κ) (input : String) :
    (Moment.mk w (.operation (.runCommand input))).Books w.desk.tally
      (w.desk.run w.current input).2.tally := by
  have hcommand : (Moment.mk w (.operation (.runCommand input))).command? =
      if w.currentStudent.isSome then (Command.parse input).toOption else none := rfl
  obtain ⟨hcurrent, hrun⟩ | ⟨id, hcurrent, hid, hrun⟩ | ⟨id, e, hcurrent, hid, hparse, hrun⟩ |
    ⟨id, c, hcurrent, hid, hparse, -, hrun⟩ := w.desk.run_spec w.current input
  · have hnobody : ¬ w.currentStudent.isSome = true := by
      rw [currentStudent_isSome_iff, hcurrent]
      rintro ⟨id, hid, -⟩
      cases hid
    rw [if_neg hnobody] at hcommand
    rw [hrun]
    exact .rejected rfl rfl hcommand
  · have hnobody : ¬ w.currentStudent.isSome = true := by
      rw [currentStudent_isSome_iff, hcurrent]
      rintro ⟨_, hsome, hmem⟩
      cases hsome
      exact hid hmem
    rw [if_neg hnobody] at hcommand
    rw [hrun]
    exact .rejected rfl rfl hcommand
  · rw [if_pos ((currentStudent_isSome_iff w).2 ⟨id, hcurrent, hid⟩), hparse] at hcommand
    rw [hrun]
    exact .rejected rfl rfl hcommand
  · rw [if_pos ((currentStudent_isSome_iff w).2 ⟨id, hcurrent, hid⟩), hparse] at hcommand
    have htally : (w.desk.run w.current input).2.tally = w.desk.tally.count (.applied c.kind) := by
      rw [hrun, Desk.count, Desk.tally_foldl_apply, Desk.withTally]
    rw [htally]
    exact .applied rfl rfl hcommand

theorem books_operation (w : Workbook σ κ) (o : Operation) :
    (Moment.mk w (.operation o)).Books w.desk.tally (w.desk.effect w.current o).desk.tally := by
  have herror : (Moment.mk w (.operation o)).isError =
      (w.desk.effect w.current o).answer.isError :=
    congrArg (fun p : Answer × Workbook σ κ => p.1.isError) (w.perform_eq o)
  have htyped : (∀ input, o ≠ .runCommand input) →
      (Moment.mk w (.operation o)).isTyped = false := by
    intro h
    cases o with
    | runCommand input => exact absurd rfl (h input)
    | addStudent | select | completeHomework | resetStamps => rfl
  obtain ⟨input, rfl⟩ | ⟨huntyped, f, hmade, hanswer, hdesk, -⟩ | ⟨huntyped, hanswer, htally⟩ :=
    w.desk.effect_answer w.current o
  · exact w.books_runCommand input
  · rw [hdesk, Desk.failed, hmade.faults_eq]
    exact .failed f.value.code (htyped huntyped) (herror.trans hanswer)
  · rw [htally]
    exact .quiet (htyped huntyped) (herror.trans hanswer)

/-- A reopening leaves the store as it is, and is booked as a fault where it fails. -/
theorem books_reopening [CountsFailures σ] (w : Workbook σ κ) :
    w.reopen.2.store = w.store ∧
      (Moment.mk w .reopening).Books w.desk.tally w.reopen.2.desk.tally := by
  have herror : (Moment.mk w .reopening).isError = (Answer.done w.reopen.1).isError := rfl
  unfold reopen at herror ⊢
  obtain ⟨f, hopen, -⟩ | ⟨l, hopen, -⟩ := open_counts w.store w.desk.clock w.desk.tally
  · rw [hopen] at herror ⊢
    exact ⟨rfl, .failed f.code rfl herror⟩
  · rw [hopen] at herror ⊢
    exact ⟨rfl, .quiet rfl herror⟩

theorem accounts_move [CountsFailures σ] {w : Workbook (Unreliable σ) κ}
    {moments : List (Moment (Unreliable σ) κ)}
    (h : w.desk.tally.Accounts moments w.store.attempts) (m : Move) :
    (w.move m).desk.tally.Accounts (moments ++ [⟨w, m⟩]) (w.move m).store.attempts := by
  cases m with
  | operation o =>
    have hunsaved : (w.unsaved o).desk.tally.Accounts (moments ++ [⟨w, .operation o⟩])
        (w.unsaved o).store.attempts := h.books (w.books_operation o)
    have hmove : w.move (.operation o) =
        (w.unsaved o).persist (w.desk.effect w.current o).saves :=
      congrArg Prod.snd (w.perform_eq o)
    rw [hmove]
    exact accounts_persist _ hunsaved
  | reopening =>
    obtain ⟨hstore, hbooks⟩ := w.books_reopening
    have hbooked := h.books hbooks
    rw [← hstore] at hbooked
    exact hbooked

theorem accounts_afterAll [CountsFailures σ] (run : List (Happening σ))
    {w : Workbook (Unreliable σ) κ} {moments : List (Moment (Unreliable σ) κ)}
    (h : w.desk.tally.Accounts moments w.store.attempts) :
    (w.afterAll run).desk.tally.Accounts (moments ++ w.moments run)
      (w.afterAll run).store.attempts := by
  induction run generalizing w moments with
  | nil =>
    rw [Workbook.moments, List.append_nil]
    exact h
  | cons happening run ih =>
    cases happening with
    | move m =>
      have hrest := ih (accounts_move h m)
      rw [List.append_assoc] at hrest
      exact hrest
    | outside store => exact ih (w := w.happen (.outside store)) h

end Workbook

end Accounts

/-! ### Stores that refuse loads -/

/-- A store that refuses to load some collections. -/
structure Barred (σ : Type) where
  inner : σ
  bar : Collection → Option Fault

namespace Barred

variable {σ : Type} [CollectionStore σ]

instance : CollectionStore (Barred σ) where
  loading s c :=
    match s.bar c with
    | some f => Fault.raise f.again
    | none => loading s.inner c
  saving s c records :=
    (fun (fault, inner) => (fault, { s with inner })) <$> saving s.inner c records

instance [CountsFailures σ] : CountsFailures (Barred σ) where
  countsOnce_loading s c := by
    simp only [loading]
    cases s.bar c with
    | some f => exact Fallible.countsOnce_raise (.again f)
    | none => exact CountsFailures.countsOnce_loading s.inner c
  faults_saving s c records := CountsFailures.faults_saving s.inner c records

end Barred

/-- Over stores of this kind the counters account for every run from opening, whichever saves and
loads are refused and whatever becomes of the store from outside.  Where opening itself fails, its
one fault is all that is counted. -/
def AccountsForRuns (σ : Type) [CollectionStore σ] : Prop :=
  ∀ {κ : Type} [IdClock κ] (clock : κ) (store : Barred σ) (refusal : Nat → Option Fault),
    (∀ f counted, Workbook.open (Unreliable.new store refusal) clock .empty = .error (f, counted) →
      counted = Tally.empty.count (.fault f.code)) ∧
    ∀ w : Workbook (Unreliable (Barred σ)) κ,
      Workbook.open (Unreliable.new store refusal) clock .empty = .ok w →
        ∀ run : List (Happening (Barred σ)),
          (w.afterAll run).desk.tally.Accounts (w.moments run) (w.afterAll run).store.attempts

theorem accountsForRuns {σ : Type} [CollectionStore σ] [CountsFailures σ] : AccountsForRuns σ := by
  intro κ _ clock store refusal
  obtain ⟨g, hfailed, -⟩ | ⟨l, hopened, -⟩ :=
    Workbook.open_counts (Unreliable.new store refusal) clock .empty
  · refine ⟨?_, ?_⟩
    · intro f counted hopen
      rw [hfailed] at hopen
      cases hopen
      rfl
    · intro w hopen
      rw [hfailed] at hopen
      cases hopen
  · refine ⟨?_, ?_⟩
    · intro f counted hopen
      rw [hopened] at hopen
      cases hopen
    · intro w hopen run
      rw [hopened] at hopen
      have hstart : w.desk.tally.Accounts (σ := Unreliable (Barred σ)) (κ := κ) []
          w.store.attempts := by
        cases hopen
        exact .empty
      exact w.accounts_afterAll run hstart

/-- In memory and in a directory, the counters account for all moves that are made and all saves
that are attempted. -/
theorem counters_account_for_every_run :
    AccountsForRuns MemoryStore ∧ AccountsForRuns FolderStore :=
  ⟨accountsForRuns, accountsForRuns⟩

/-- The second save is refused; of two reopenings, one finds a damaged roster and one is not let at
the rewards. -/
theorem counters_account_for_refusals_and_damage :
    let refusal : Nat → Option Fault := fun n =>
      if n = 1 then some (Fault.storage "refused").value else none
    let store : Barred MemoryStore := ⟨.empty, fun _ => none⟩
    let w : Workbook (Unreliable (Barred MemoryStore)) SequentialClock :=
      ⟨⟨.empty, .new .epoch 0, .empty⟩, .new store refusal, none⟩
    let damaged : Barred MemoryStore := ⟨MemoryStore.empty.put .students .null, fun _ => none⟩
    let barred : Barred MemoryStore :=
      ⟨.empty, fun c => if c = .rewards then some (Fault.storage "barred").value else none⟩
    let run : List (Happening (Barred MemoryStore)) := [.move (.operation (.addStudent "Kim")),
      .move (.operation (.addStudent " ")), .move (.operation (.select "student-1")),
      .move (.operation (.runCommand "!penalty 2")), .move (.operation (.runCommand "Z")),
      .outside damaged, .move .reopening, .outside barred, .move .reopening]
    let tally := (w.afterAll run).desk.tally
    Workbook.open (Unreliable.new store refusal) w.desk.clock .empty = .ok w ∧
      tally.Accounts (w.moments run) (w.afterAll run).store.attempts ∧
      tally.total (.applied "penalty") = 1 ∧ tally.total .rejected = 1 ∧
      tally.total (.failedSave .students) = 1 ∧ tally.total (.fault .deserializationError) = 1 ∧
      tally.familyTotal .faults = 4 := by
  intro refusal store w damaged barred run tally
  have hopen : Workbook.open (Unreliable.new store refusal) w.desk.clock .empty = .ok w := rfl
  have haccounts := (counters_account_for_every_run.1 w.desk.clock store refusal).2 w hopen run
  exact ⟨hopen, haccounts, by decide, by decide, by decide, by decide, by decide⟩

end Gradebook
