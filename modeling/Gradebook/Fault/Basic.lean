import Gradebook.Command.Typed
import Gradebook.Fault.Counted
import Gradebook.Files.Problem
import Gradebook.Record.Basic

/-!
# Faults

An operation that fails yields a fault: a code, a message for the user, an optional detail for
the log, and the texts of what caused it, the nearest first.  Whichever way a fault is made, it is
counted once, under its code.
-/

namespace Gradebook

/-- A failure of an operation. -/
structure Fault where
  code : FaultCode
  message : String
  detail : Option String
  causes : List String
deriving DecidableEq

/-- Why a command cannot be carried out for a student: none is selected, or the selected one is not
on the roster. -/
inductive Refusal where
  | noStudentSelected
  | studentNotFound (id : StudentId)
deriving DecidableEq

def Refusal.message : Refusal → String
  | noStudentSelected => "No student selected"
  | studentNotFound id => s!"Student not found: {id}"

namespace Fault

def detailed (f : Fault) (detail : String) : Fault :=
  { f with detail := some detail }

def causedBy (f : Fault) (cause : String) : Fault :=
  { f with causes := [cause] }

def text (f : Fault) : String :=
  s!"[{f.code.name}] {f.message}" ++
    match f.detail with
    | some detail => s!" (internal: {detail})"
    | none => ""

/-- Makes a fault, which counts it.  Every other way to make one goes through this. -/
def new (code : FaultCode) (message : String) : Counted Fault :=
  ⟨⟨code, message, none, []⟩, [code]⟩

def withDetail (code : FaultCode) (message detail : String) : Counted Fault :=
  (·.detailed detail) <$> new code message

def internal (detail : String) : Counted Fault :=
  withDetail .internalError "An internal error occurred" detail

def studentNotFound (id : StudentId) : Counted Fault :=
  new .studentNotFound s!"Student not found: {id}"

def homeworkNotFound (id : RecordId) : Counted Fault :=
  new .homeworkNotFound s!"Homework not found: {id}"

def invalidInput (message : String) : Counted Fault :=
  new .invalidInput message

def storage (message : String) : Counted Fault :=
  new .storageError message

/-- A line that is no command. -/
def ofCommandError (e : CommandError) : Counted Fault :=
  let code := match e with
    | .tooFewWords _ => FaultCode.tooFewTokens
    | .unknownStatus _ => .invalidStatus
    | .noAmount _ => .invalidAmount
  (·.causedBy e.message) <$> new code e.message

/-- A command that was refused. -/
def ofRefusal (r : Refusal) : Counted Fault :=
  let code := match r with
    | .noStudentSelected => FaultCode.noStudentSelected
    | .studentNotFound _ => .studentNotFound
  (·.causedBy r.message) <$> new code r.message

def ofFileProblem (p : FileProblem) : Counted Fault :=
  let code := match p with
    | .denied _ => FaultCode.storageUnavailable
    | _ => .storageError
  (·.causedBy p.message) <$> withDetail code "Failed to access ledger storage" p.message

/-- Stored text that does not hold the expected records; `reason` says why. -/
def undecodable (reason : String) : Counted Fault :=
  (·.causedBy reason) <$>
    withDetail .deserializationError "Failed to process ledger data" reason

/-- Settings that cannot be used; `reason` says why. -/
def badSettings (reason : String) : Counted Fault :=
  (·.causedBy reason) <$> withDetail .configurationError "Invalid configuration" reason

/-- A failure that is a defect of the program in the given context. -/
def inContext (context cause : String) : Counted Fault :=
  (·.causedBy cause) <$> internal context

/-- A failure reported under a code, with its own text as the message. -/
def underCode (code : FaultCode) (cause : String) : Counted Fault :=
  (·.causedBy cause) <$> new code cause

def absent (code : FaultCode) : Counted Fault :=
  new code "Resource not found"

end Fault

/-- What may fail, with the faults made on the way to its result counted. -/
abbrev Fallible (α : Type) : Type := ExceptT Fault Counted α

/-- Fails with a fault. -/
def Fault.raise {α : Type} (f : Counted Fault) : Fallible α :=
  ExceptT.mk (.error <$> f)

namespace Fallible

variable {α β : Type}

@[simp] theorem value_run_pure (a : α) : (pure a : Fallible α).run.value = .ok a := rfl

@[simp] theorem value_run_raise (f : Counted Fault) :
    (Fault.raise f : Fallible α).run.value = .error f.value := rfl

theorem run_bind_of_error {x : Fallible α} {f : Fault} (h : x.run.value = .error f)
    (k : α → Fallible β) : (x >>= k).run = ⟨.error f, x.run.faults⟩ := by
  have hrun : (x >>= k).run = x.run >>= ExceptT.bindCont k := rfl
  have hrest : ExceptT.bindCont k (Except.error f) = (pure (.error f) : Counted (Except Fault β)) :=
    rfl
  have hbind : x.run >>= ExceptT.bindCont k =
      ⟨(ExceptT.bindCont k x.run.value).value,
        x.run.faults ++ (ExceptT.bindCont k x.run.value).faults⟩ := rfl
  rw [hrun, hbind, h, hrest, Counted.value_pure, Counted.faults_pure, List.append_nil]

theorem run_bind_of_ok {x : Fallible α} {a : α} (h : x.run.value = .ok a)
    (k : α → Fallible β) :
    (x >>= k).run = ⟨(k a).run.value, x.run.faults ++ (k a).run.faults⟩ := by
  have hrun : (x >>= k).run = ⟨(ExceptT.bindCont k x.run.value).value,
      x.run.faults ++ (ExceptT.bindCont k x.run.value).faults⟩ := rfl
  rw [hrun, h]
  rfl

end Fallible

end Gradebook
