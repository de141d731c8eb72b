import Gradebook.Json.Value
import Gradebook.Record.Basic
import Gradebook.Time.Rfc3339

/-!
# Records as JSON

A record is an object of its fields.  Reading passes over names that are no field of the record
and refuses a field given twice; a record may also be an array of its entries in the order of the
fields, and a mark may also be an object with the mark as its only name.  A grading log or
homework list may be absent, as may the reason of a reward.
-/

namespace Gradebook

namespace Json.Value

/-- The entry of a field among the members of an object, absent if no member has its name.  A
field given twice is refused. -/
def memberOf? (members : List (String × Value)) (field : String) : Option (Option Value) :=
  match members.filter (·.1 = field) with
  | [] => some none
  | [m] => some (some m.2)
  | _ => none

/-- The entries of a record under its field names: by name from an object, by position from an
array, of which the last may be missing. -/
def entries? (fields : List String) : Value → Option (List (Option Value))
  | object members => fields.mapM (memberOf? members)
  | array items =>
    if items.length ≤ fields.length then
      some (items.map some ++ List.replicate (fields.length - items.length) none)
    else none
  | _ => none

def mark? : Value → Option String
  | string s => some s
  | object [(s, null)] => some s
  | _ => none

def string? : Value → Option String
  | string s => some s
  | _ => none

def bool? : Value → Option Bool
  | bool b => some b
  | _ => none

def count? : Value → Option Count
  | integer n => Count.ofInt? n
  | _ => none

def instant? : Value → Option Time.Instant
  | string s => Time.Instant.read? s.toList
  | _ => none

def stringOrNull? : Value → Option (Option String)
  | string s => some (some s)
  | null => some none
  | _ => none

def listOf? {α : Type} (read? : Value → Option α) : Value → Option (List α)
  | array items => items.mapM read?
  | _ => none

/-- A list that may be absent. -/
def listOrAbsent? {α : Type} (read? : Value → Option α) : Option Value → Option (List α)
  | some v => v.listOf? read?
  | none => some []

end Json.Value

open Json (Value)

def Status.toJson (s : Status) : Value :=
  .string s.symbol

def Status.ofJson? (v : Value) : Option Status :=
  match v.mark? with
  | some "O" => some .correct
  | some "X" => some .incorrect
  | some "△" | some "PARTIAL" => some .partly
  | _ => none

def RewardKind.toJson (k : RewardKind) : Value :=
  .string k.name

def RewardKind.ofJson? (v : Value) : Option RewardKind :=
  match v.mark? with
  | some "stamp" => some .stamp
  | some "penalty" => some .penalty
  | _ => none

def HomeworkState.ofJson? (v : Value) : Option HomeworkState :=
  v.mark?.bind HomeworkState.ofName?

def Time.Instant.toJson (t : Time.Instant) : Value :=
  .string (toString t)

def Count.toJson (n : Count) : Value :=
  .integer n.val

namespace LogEntry

def fields : List String := ["id", "studentId", "unit", "question", "status", "timestamp"]

def toJson (e : LogEntry) : Value :=
  .object [("id", .string e.id), ("studentId", .string e.studentId), ("unit", .string e.unit),
    ("question", .string e.question), ("status", e.status.toJson),
    ("timestamp", e.timestamp.toJson)]

def ofJson? (v : Value) : Option LogEntry :=
  match v.entries? fields with
  | some [some id, some studentId, some unit, some question, some status, some timestamp] => do
    some ⟨← id.string?, ← studentId.string?, ← unit.string?, ← question.string?,
      ← Status.ofJson? status, ← timestamp.instant?⟩
  | _ => none

end LogEntry

namespace Homework

def fields : List String := ["id", "unit", "range", "assignedAt", "completed"]

def toJson (h : Homework) : Value :=
  .object [("id", .string h.id), ("unit", .string h.unit), ("range", .string h.range),
    ("assignedAt", h.assignedAt.toJson), ("completed", .bool h.completed)]

def ofJson? (v : Value) : Option Homework :=
  match v.entries? fields with
  | some [some id, some unit, some range, some assignedAt, some completed] => do
    some ⟨← id.string?, ← unit.string?, ← range.string?, ← assignedAt.instant?,
      ← completed.bool?⟩
  | _ => none

end Homework

namespace RewardEntry

def fields : List String := ["id", "studentId", "type", "value", "reason", "timestamp"]

/-- The stored form of a reward entry; an absent reason is left out. -/
def toJson (e : RewardEntry) : Value :=
  .object ([("id", .string e.id), ("studentId", .string e.studentId), ("type", e.kind.toJson),
    ("value", e.value.toJson)] ++ (e.reason.map fun r => ("reason", Value.string r)).toList ++
    [("timestamp", e.timestamp.toJson)])

def ofJson? (v : Value) : Option RewardEntry :=
  match v.entries? fields with
  | some [some id, some studentId, some kind, some value, reason, some timestamp] => do
    some ⟨← id.string?, ← studentId.string?, ← RewardKind.ofJson? kind, ← value.count?,
      ← (reason.getD .null).stringOrNull?, ← timestamp.instant?⟩
  | _ => none

end RewardEntry

namespace Student

def fields : List String := ["id", "name", "stamps", "logs", "homework"]

def toJson (s : Student) : Value :=
  .object [("id", .string s.id), ("name", .string s.name), ("stamps", s.stamps.toJson),
    ("logs", .array (s.logs.map LogEntry.toJson)),
    ("homework", .array (s.homework.map Homework.toJson))]

def ofJson? (v : Value) : Option Student :=
  match v.entries? fields with
  | some [some id, some name, some stamps, logs, homework] => do
    some ⟨← id.string?, ← name.string?, ← stamps.count?,
      ← Value.listOrAbsent? LogEntry.ofJson? logs,
      ← Value.listOrAbsent? Homework.ofJson? homework⟩
  | _ => none

end Student

end Gradebook
