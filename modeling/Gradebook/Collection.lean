import Gradebook.Fault.Basic
import Gradebook.Record.Codec

/-!
# Collections and stores

The three lists of records that a store keeps, each under a name of its own, with the JSON form
of their records.  Loading leaves a store as it is.  Saving yields the store that comes after, also
where it fails, together with the fault.  Both count the faults that they make.
-/

namespace Gradebook

open Json (Value)

/-- A stored list of records. -/
inductive Collection where
  | students
  | grades
  | rewards
deriving DecidableEq, Repr

namespace Collection

def name : Collection → String
  | students => "tutor-students"
  | grades => "tutor-logs"
  | rewards => "tutor-rewards"

theorem name_inj {c d : Collection} : c.name = d.name ↔ c = d := by
  cases c <;> cases d <;> decide

/-- Every collection, in the order of loading. -/
def all : List Collection := [students, grades, rewards]

abbrev Record : Collection → Type
  | students => Student
  | grades => LogEntry
  | rewards => RewardEntry

def recordToJson : (c : Collection) → c.Record → Value
  | students => Student.toJson
  | grades => LogEntry.toJson
  | rewards => RewardEntry.toJson

def recordOfJson? : (c : Collection) → Value → Option c.Record
  | students => Student.ofJson?
  | grades => LogEntry.ofJson?
  | rewards => RewardEntry.ofJson?

def toJson (c : Collection) (records : List c.Record) : Value :=
  .array (records.map c.recordToJson)

def ofJson? (c : Collection) (v : Value) : Option (List c.Record) :=
  v.listOf? c.recordOfJson?

end Collection

/-- A place that keeps collections. -/
class CollectionStore (σ : Type) where
  loading : σ → (c : Collection) → Fallible (List c.Record)
  saving : σ → (c : Collection) → List c.Record → Counted (Option Fault × σ)

namespace CollectionStore

variable {σ : Type} [CollectionStore σ]

def load (s : σ) (c : Collection) : Except Fault (List c.Record) :=
  (loading s c).run.value

def save (s : σ) (c : Collection) (records : List c.Record) : Option Fault × σ :=
  (saving s c records).value

end CollectionStore

end Gradebook
