import Gradebook.Fault.Basic
import Mathlib.Data.List.Nodup

/-!
# What faults say

A code is told by its name, its stored name or its number.  How severe a fault is shows whether the
user caused it.  Every way to make a fault counts it once, under the code that it has, and so what
fails with a fault counts that fault and no other.
-/

namespace Gradebook

namespace FaultCode

theorem mem_all (c : FaultCode) : c ∈ all := by
  cases c <;> decide

/-- What no two codes of the list share tells codes apart. -/
theorem injective_of_nodup {α : Type} {f : FaultCode → α} (h : (all.map f).Nodup) :
    Function.Injective f :=
  fun c d hcd => List.inj_on_of_nodup_map h c.mem_all d.mem_all hcd

theorem name_injective : Function.Injective name :=
  injective_of_nodup (by decide)

theorem wireName_injective : Function.Injective wireName :=
  injective_of_nodup (by decide)

theorem number_injective : Function.Injective number :=
  injective_of_nodup (by decide)

theorem ofWireName?_eq_some_iff {s : String} {c : FaultCode} :
    ofWireName? s = some c ↔ c.wireName = s := by
  constructor
  · intro h
    have hfound := List.find?_some h
    exact of_decide_eq_true hfound
  · rintro rfl
    cases hfound : all.find? (·.wireName = c.wireName) with
    | none => exact absurd (decide_eq_true rfl) (List.find?_eq_none.1 hfound c c.mem_all)
    | some d =>
      have hsame := List.find?_some hfound
      rw [ofWireName?, hfound, wireName_injective (of_decide_eq_true hsame)]

/-- The user causes the faults of commands and of the ledgers. -/
theorem isUserError_iff (c : FaultCode) :
    c.isUserError = true ↔ c.category = "command" ∨ c.category = "ledger" := by
  cases c <;> decide

/-- A fault is logged as rejected input just where the user caused it. -/
theorem logLine_severity_iff (c : FaultCode) :
    c.severity.logLine = Severity.low.logLine ↔ c.isUserError = true := by
  cases c <;> decide

end FaultCode

theorem Severity.ofName?_eq_some_iff {s : String} {v : Severity} :
    ofName? s = some v ↔ v.name = s := by
  constructor
  · intro h
    unfold ofName? at h
    split at h <;> cases h <;> rfl
  · rintro rfl
    cases v <;> rfl

namespace Fault

/-- Makes a fault like another. -/
def again (f : Fault) : Counted Fault :=
  (fun made => { made with detail := f.detail, causes := f.causes }) <$> new f.code f.message

/-- The ways to make a fault. -/
inductive IsMade : Counted Fault → Prop
  | new (code : FaultCode) (message : String) : IsMade (new code message)
  | withDetail (code : FaultCode) (message detail : String) :
      IsMade (withDetail code message detail)
  | internal (detail : String) : IsMade (internal detail)
  | studentNotFound (id : StudentId) : IsMade (studentNotFound id)
  | homeworkNotFound (id : RecordId) : IsMade (homeworkNotFound id)
  | invalidInput (message : String) : IsMade (invalidInput message)
  | storage (message : String) : IsMade (storage message)
  | ofCommandError (e : CommandError) : IsMade (ofCommandError e)
  | ofRefusal (r : Refusal) : IsMade (ofRefusal r)
  | ofFileProblem (p : FileProblem) : IsMade (ofFileProblem p)
  | undecodable (reason : String) : IsMade (undecodable reason)
  | badSettings (reason : String) : IsMade (badSettings reason)
  | inContext (context cause : String) : IsMade (inContext context cause)
  | underCode (code : FaultCode) (cause : String) : IsMade (underCode code cause)
  | absent (code : FaultCode) : IsMade (absent code)
  | again (f : Fault) : IsMade f.again
  /-- Another detail or cause makes no other fault. -/
  | changed {made : Counted Fault} {f : Fault → Fault} (hmade : IsMade made)
      (hcode : ∀ fault, (f fault).code = fault.code) : IsMade (f <$> made)

theorem IsMade.faults_eq {made : Counted Fault} (h : IsMade made) :
    made.faults = [made.value.code] := by
  induction h with
  | changed _ hcode ih => rw [Counted.faults_map, Counted.value_map, ih, hcode]
  | _ => rfl

/-- The code of the fault of a result, if it is one. -/
def codesOf {α : Type} : Except Fault α → List FaultCode
  | .ok _ => []
  | .error f => [f.code]

end Fault

open Fault (IsMade codesOf)

namespace Fallible

variable {α β : Type}

/-- The fault of a failure is counted, once, and nothing else is. -/
def CountsOnce (x : Fallible α) : Prop :=
  x.run.faults = codesOf x.run.value

theorem countsOnce_pure (a : α) : CountsOnce (pure a : Fallible α) := rfl

theorem countsOnce_raise {f : Counted Fault} (h : IsMade f) :
    CountsOnce (Fault.raise f : Fallible α) :=
  h.faults_eq

theorem CountsOnce.adapt {x : Fallible α} (h : x.CountsOnce) {f : Fault → Fault}
    (hcode : ∀ fault, (f fault).code = fault.code) : CountsOnce (ExceptT.adapt f x) := by
  have hvalue : (ExceptT.adapt f x).run.value = x.run.value.mapError f := rfl
  have hfaults : (ExceptT.adapt f x).run.faults = x.run.faults := rfl
  rw [CountsOnce, hvalue, hfaults, h]
  cases x.run.value with
  | error fault => exact congrArg (fun code => [code]) (hcode fault).symm
  | ok a => rfl

theorem CountsOnce.bind {x : Fallible α} (h : x.CountsOnce) {k : α → Fallible β}
    (hk : ∀ a, (k a).CountsOnce) : (x >>= k).CountsOnce := by
  unfold CountsOnce at h ⊢
  cases hx : x.run.value with
  | error f => rw [run_bind_of_error hx, h, hx]; rfl
  | ok a => rw [run_bind_of_ok hx, h, hx]; exact hk a

end Fallible

namespace Fault

theorem isUserError_ofCommandError (e : CommandError) :
    (ofCommandError e).value.code.isUserError = true := by
  cases e <;> rfl

theorem isUserError_ofRefusal (r : Refusal) : (ofRefusal r).value.code.isUserError = true := by
  cases r <;> rfl

theorem severity_inContext (context cause : String) :
    (inContext context cause).value.code.severity = .high := by
  have hcode : (inContext context cause).value.code = .internalError := rfl
  rw [hcode]
  decide

end Fault

end Gradebook
