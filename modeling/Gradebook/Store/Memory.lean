import Gradebook.Collection

/-!
# Stores in memory

A store that keeps the JSON value of each collection and counts the saves.
-/

namespace Gradebook

open Json (Value)

structure MemoryStore where
  content : Collection → Option Value
  saves : Collection → Nat
  readOnly : Bool

namespace MemoryStore

def empty : MemoryStore := ⟨fun _ => none, fun _ => 0, false⟩

/-- A store without collections that refuses every save. -/
def failing : MemoryStore := { empty with readOnly := true }

/-- Keeps a value for a collection and counts the save. -/
def put (s : MemoryStore) (c : Collection) (v : Value) : MemoryStore :=
  { s with
    content := fun d => if d = c then some v else s.content d
    saves := fun d => if d = c then s.saves d + 1 else s.saves d }

def mismatch (c : Collection) : Counted Fault :=
  Fault.undecodable s!"{c.name} does not hold the expected records"

instance : CollectionStore MemoryStore where
  loading s c :=
    match s.content c with
    | none => pure []
    | some v =>
      match c.ofJson? v with
      | some records => pure records
      | none => Fault.raise (mismatch c)
  saving s c records :=
    if s.readOnly then (some ·, s) <$> Fault.storage s!"{c.name} is read-only"
    else pure (none, s.put c (c.toJson records))

end MemoryStore

end Gradebook
