import Gradebook.Proofs.Store.Faithful
import Gradebook.Store.Folder

/-!
# Stores that count their failures

A load or a save that succeeds counts nothing, and one that fails counts the fault that it gives and
no other: a store fails with a fault that it makes, and a fault is counted once where it is made.
-/

namespace Gradebook

open CollectionStore (loading save saving)
open Fault (IsMade)

/-- A store that counts the faults it gives, once each, and no others. -/
class CountsFailures (σ : Type) [CollectionStore σ] : Prop where
  countsOnce_loading : ∀ (s : σ) (c : Collection), (loading s c).CountsOnce
  faults_saving : ∀ (s : σ) (c : Collection) (records : List c.Record),
    (saving s c records).faults = ((save s c records).1.map (·.code)).toList

instance : CountsFailures MemoryStore where
  countsOnce_loading s c := by
    simp only [loading]
    split
    · exact Fallible.countsOnce_pure _
    · split
      · exact Fallible.countsOnce_pure _
      · exact Fallible.countsOnce_raise (.undecodable _)
  faults_saving s c records := by
    cases hmode : s.readOnly with
    | true =>
      rw [save, MemoryStore.saving_readOnly c records hmode]
      exact (IsMade.storage _).faults_eq
    | false =>
      rw [save, MemoryStore.saving_writable c records hmode]
      rfl

namespace FolderStore

theorem countsOnce_decoding (c : Collection) (text : String) : (decoding c text).CountsOnce := by
  unfold decoding
  split
  · exact Fallible.countsOnce_pure _
  · split
    · exact Fallible.countsOnce_pure _
    · exact Fallible.countsOnce_raise (.undecodable _)

/-- Each of the three steps of a save can fail, and then counts its fault. -/
theorem faults_writing (s : FolderStore) (c : Collection) (text : String) :
    (s.writing c text).faults = ((s.write c text).1.map (·.code)).toList := by
  unfold write writing
  split
  · exact (IsMade.ofFileProblem _).faults_eq
  · split
    · exact (IsMade.ofFileProblem _).faults_eq
    · split
      · exact (IsMade.underCode _ _).faults_eq
      · rfl

end FolderStore

instance : CountsFailures FolderStore where
  countsOnce_loading s c := by
    simp only [loading]
    split
    · split
      · exact Fallible.countsOnce_raise (.ofFileProblem _)
      · exact FolderStore.countsOnce_decoding c _
    · exact Fallible.countsOnce_pure _
  faults_saving s c records := s.faults_writing c (FolderStore.encode c records)

namespace Unreliable

variable {σ : Type} [CollectionStore σ] [CountsFailures σ]

theorem faults_attempting (s : Unreliable σ) (c : Collection) (records : List c.Record) :
    (s.attempting c records).faults = ((s.attempt c records).1.map (·.code)).toList := by
  cases hrefusal : s.refusal s.attempts.length with
  | some f =>
    rw [attempt, attempting_refused c records hrefusal]
    exact (IsMade.again f).faults_eq
  | none =>
    rw [attempt, attempting_made c records hrefusal]
    exact CountsFailures.faults_saving s.inner c records

instance : CountsFailures (Unreliable σ) where
  countsOnce_loading s c := CountsFailures.countsOnce_loading s.inner c
  faults_saving s c records := s.faults_attempting c records

end Unreliable

end Gradebook
