import Gradebook.Fault.Code

/-!
# Counted computations

A fault is counted where it is made.  What may make faults yields beside its value the codes of
those that were made on the way to it.
-/

namespace Gradebook

/-- A value, and the codes of the faults that were made on the way to it, the earliest first. -/
structure Counted (α : Type) where
  value : α
  faults : List FaultCode
deriving DecidableEq

namespace Counted

instance : Monad Counted where
  pure a := ⟨a, []⟩
  bind x f := ⟨(f x.value).value, x.faults ++ (f x.value).faults⟩
  map f x := ⟨f x.value, x.faults⟩

variable {α β : Type}

@[simp] theorem value_pure (a : α) : (pure a : Counted α).value = a := rfl

@[simp] theorem faults_pure (a : α) : (pure a : Counted α).faults = [] := rfl

@[simp] theorem value_map (f : α → β) (x : Counted α) : (f <$> x).value = f x.value := rfl

@[simp] theorem faults_map (f : α → β) (x : Counted α) : (f <$> x).faults = x.faults := rfl

@[simp] theorem value_bind (x : Counted α) (f : α → Counted β) :
    (x >>= f).value = (f x.value).value := rfl

@[simp] theorem faults_bind (x : Counted α) (f : α → Counted β) :
    (x >>= f).faults = x.faults ++ (f x.value).faults := rfl

end Counted

end Gradebook
