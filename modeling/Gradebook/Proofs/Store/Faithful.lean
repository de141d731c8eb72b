import Gradebook.Proofs.Fault
import Gradebook.Proofs.Record.RoundTrip
import Gradebook.Store.Memory

/-!
# What a save leaves behind

A save that succeeds leaves the records that were saved, a save that fails leaves the collection
as it was, and no save touches another collection.  The promise is made by stores in order, and a
save leaves a store in order.
-/

namespace Gradebook

open CollectionStore (load loading save saving)

/-- The promise of the saves of stores that are in order. -/
structure SavesFaithfully (σ : Type) [CollectionStore σ] (InOrder : σ → Prop) : Prop where
  inOrder : ∀ {s : σ} (c : Collection) (records : List c.Record), InOrder s →
    InOrder (save s c records).2
  load_saved : ∀ {s : σ} {c : Collection} {records : List c.Record}, InOrder s →
    (save s c records).1 = none → load (save s c records).2 c = .ok records
  load_failed : ∀ {s : σ} {c : Collection} {records : List c.Record}, InOrder s →
    (save s c records).1 ≠ none → load (save s c records).2 c = load s c
  load_other : ∀ {s : σ} {c d : Collection} (records : List c.Record), InOrder s → d ≠ c →
    load (save s c records).2 d = load s d

namespace MemoryStore

theorem loading_put (s : MemoryStore) (c : Collection) (records : List c.Record) :
    loading (s.put c (c.toJson records)) c = pure records := by
  simp only [loading, put, if_true, c.ofJson?_toJson records]

theorem load_put (s : MemoryStore) (c : Collection) (records : List c.Record) :
    load (s.put c (c.toJson records)) c = .ok records := by
  rw [load, loading_put]
  rfl

theorem loading_put_other (s : MemoryStore) {c d : Collection} (v : Json.Value) (h : d ≠ c) :
    loading (s.put c v) d = loading s d := by
  simp only [loading, put, if_neg h]

theorem saving_readOnly {s : MemoryStore} (c : Collection) (records : List c.Record)
    (h : s.readOnly = true) :
    saving s c records = (some ·, s) <$> Fault.storage s!"{c.name} is read-only" := by
  simp only [saving, h, if_true]

theorem saving_writable {s : MemoryStore} (c : Collection) (records : List c.Record)
    (h : s.readOnly = false) : saving s c records = pure (none, s.put c (c.toJson records)) := by
  simp only [saving, h, Bool.false_eq_true, if_false]

theorem save_readOnly {s : MemoryStore} (c : Collection) (records : List c.Record)
    (h : s.readOnly = true) :
    save s c records = (some (Fault.storage s!"{c.name} is read-only").value, s) := by
  rw [save, saving_readOnly c records h]
  rfl

theorem save_writable {s : MemoryStore} (c : Collection) (records : List c.Record)
    (h : s.readOnly = false) : save s c records = (none, s.put c (c.toJson records)) := by
  rw [save, saving_writable c records h]
  rfl

theorem savesFaithfully : SavesFaithfully MemoryStore fun _ => True where
  inOrder _ _ _ := trivial
  load_saved := by
    intro s c records _ hsaved
    cases hmode : s.readOnly with
    | true =>
      rw [save_readOnly c records hmode] at hsaved
      cases hsaved
    | false =>
      rw [save_writable c records hmode]
      exact load_put s c records
  load_failed := by
    intro s c records _ hfailed
    cases hmode : s.readOnly with
    | true => rw [save_readOnly c records hmode]
    | false =>
      rw [save_writable c records hmode] at hfailed
      exact absurd rfl hfailed
  load_other := by
    intro s c d records _ hother
    cases hmode : s.readOnly with
    | true => rw [save_readOnly c records hmode]
    | false =>
      rw [save_writable c records hmode, load, loading_put_other s _ hother, load]

end MemoryStore

structure Attempt where
  collection : Collection
  records : List collection.Record
  succeeded : Bool

/-- A store some of whose saves are refused, by the number of attempts before, and which keeps
every attempt, the latest first. -/
structure Unreliable (σ : Type) where
  inner : σ
  refusal : Nat → Option Fault
  attempts : List Attempt

namespace Unreliable

variable {σ : Type} [CollectionStore σ]

def new (store : σ) (refusal : Nat → Option Fault) : Unreliable σ :=
  ⟨store, refusal, []⟩

def attempting (s : Unreliable σ) (c : Collection) (records : List c.Record) :
    Counted (Option Fault × σ) :=
  match s.refusal s.attempts.length with
  | some f => (some ·, s.inner) <$> f.again
  | none => saving s.inner c records

def attempt (s : Unreliable σ) (c : Collection) (records : List c.Record) : Option Fault × σ :=
  (s.attempting c records).value

instance : CollectionStore (Unreliable σ) where
  loading s c := loading s.inner c
  saving s c records :=
    (fun (fault, inner) =>
      (fault, { s with inner, attempts := ⟨c, records, fault.isNone⟩ :: s.attempts })) <$>
        s.attempting c records

theorem load_eq (s : Unreliable σ) (c : Collection) : load s c = load s.inner c := rfl

theorem save_eq (s : Unreliable σ) (c : Collection) (records : List c.Record) :
    save s c records = ((s.attempt c records).1,
      { s with
        inner := (s.attempt c records).2
        attempts := ⟨c, records, (s.attempt c records).1.isNone⟩ :: s.attempts }) := rfl

theorem attempting_refused {s : Unreliable σ} {f : Fault} (c : Collection)
    (records : List c.Record) (h : s.refusal s.attempts.length = some f) :
    s.attempting c records = (some ·, s.inner) <$> f.again := by
  simp only [attempting, h]

theorem attempting_made {s : Unreliable σ} (c : Collection) (records : List c.Record)
    (h : s.refusal s.attempts.length = none) :
    s.attempting c records = saving s.inner c records := by
  simp only [attempting, h]

theorem attempt_refused {s : Unreliable σ} {f : Fault} (c : Collection) (records : List c.Record)
    (h : s.refusal s.attempts.length = some f) : s.attempt c records = (some f, s.inner) := by
  rw [attempt, attempting_refused c records h]
  rfl

theorem attempt_made {s : Unreliable σ} (c : Collection) (records : List c.Record)
    (h : s.refusal s.attempts.length = none) : s.attempt c records = save s.inner c records := by
  rw [attempt, attempting_made c records h, save]

/-- Refusing saves breaks no promise. -/
theorem savesFaithfully {InOrder : σ → Prop} (h : SavesFaithfully σ InOrder) :
    SavesFaithfully (Unreliable σ) fun s => InOrder s.inner where
  inOrder := by
    intro s c records hs
    rw [save_eq]
    cases hr : s.refusal s.attempts.length with
    | some f =>
      rw [attempt_refused c records hr]
      exact hs
    | none =>
      rw [attempt_made c records hr]
      exact h.inOrder c records hs
  load_saved := by
    intro s c records hs hsaved
    rw [save_eq] at hsaved ⊢
    cases hr : s.refusal s.attempts.length with
    | some f =>
      rw [attempt_refused c records hr] at hsaved
      cases hsaved
    | none =>
      rw [attempt_made c records hr] at hsaved ⊢
      exact h.load_saved hs hsaved
  load_failed := by
    intro s c records hs hfailed
    rw [save_eq] at hfailed ⊢
    cases hr : s.refusal s.attempts.length with
    | some f =>
      rw [attempt_refused c records hr]
      rfl
    | none =>
      rw [attempt_made c records hr] at hfailed ⊢
      exact h.load_failed hs hfailed
  load_other := by
    intro s c d records hs hother
    rw [save_eq]
    cases hr : s.refusal s.attempts.length with
    | some f =>
      rw [attempt_refused c records hr]
      rfl
    | none =>
      rw [attempt_made c records hr]
      exact h.load_other records hs hother

end Unreliable

end Gradebook
