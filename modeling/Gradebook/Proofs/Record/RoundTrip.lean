import Gradebook.Collection
import Gradebook.Proofs.Json.RoundTrip
import Gradebook.Proofs.Time.Rfc3339
import Gradebook.Text.Blank

/-!
# Records read back

Each record is read back from its JSON value, and each collection from the text of its value.
-/

namespace Gradebook

open Json (Value)

theorem mapM_map_eq_some {α β : Type} {f : α → β} {g : β → Option α} (h : ∀ a, g (f a) = some a)
    (l : List α) : (l.map f).mapM g = some l := by
  induction l with
  | nil => rfl
  | cons a l ih =>
    rw [List.map_cons, List.mapM_cons, h, ih]
    rfl

theorem listOf?_map {α : Type} {f : α → Value} {g : Value → Option α}
    (h : ∀ a, g (f a) = some a) (l : List α) : (Value.array (l.map f)).listOf? g = some l :=
  mapM_map_eq_some h l

theorem Status.ofJson?_toJson (s : Status) : Status.ofJson? s.toJson = some s := by
  cases s <;> rfl

theorem RewardKind.ofJson?_toJson (k : RewardKind) : RewardKind.ofJson? k.toJson = some k := by
  cases k <;> rfl

theorem Time.Instant.instant?_toJson (t : Time.Instant) : t.toJson.instant? = some t := by
  change Time.Instant.read? (String.ofList t.write).toList = some t
  rw [String.toList_ofList]
  exact t.read?_write

theorem Count.count?_toJson (n : Count) : n.toJson.count? = some n := by
  have hmax : (n.val : Int) ≤ (maxCount : Nat) := by exact_mod_cast n.le_max
  have hrange : 0 ≤ (n.val : Int) ∧ (n.val : Int) ≤ (maxCount : Nat) := ⟨by omega, hmax⟩
  change Count.ofInt? n.val = some n
  rw [Count.ofInt?, if_pos hrange, Count.clamp_val]

theorem LogEntry.ofJson?_toJson (e : LogEntry) : LogEntry.ofJson? e.toJson = some e := by
  have hentries : e.toJson.entries? LogEntry.fields =
      some [some (.string e.id), some (.string e.studentId), some (.string e.unit),
        some (.string e.question), some e.status.toJson, some e.timestamp.toJson] := by
    simp [LogEntry.toJson, LogEntry.fields, Value.entries?, Value.memberOf?]
  simp only [LogEntry.ofJson?, hentries, Value.string?, Status.ofJson?_toJson,
    Time.Instant.instant?_toJson, Option.bind_eq_bind, Option.bind_some]

theorem Homework.ofJson?_toJson (h : Homework) : Homework.ofJson? h.toJson = some h := by
  have hentries : h.toJson.entries? Homework.fields =
      some [some (.string h.id), some (.string h.unit), some (.string h.range),
        some h.assignedAt.toJson, some (.bool h.completed)] := by
    simp [Homework.toJson, Homework.fields, Value.entries?, Value.memberOf?]
  simp only [Homework.ofJson?, hentries, Value.string?, Value.bool?, Time.Instant.instant?_toJson,
    Option.bind_eq_bind, Option.bind_some]

/-- An absent reason is left out of the value and read back as absent. -/
theorem RewardEntry.ofJson?_toJson (e : RewardEntry) : RewardEntry.ofJson? e.toJson = some e := by
  have hentries : e.toJson.entries? RewardEntry.fields =
      some [some (.string e.id), some (.string e.studentId), some e.kind.toJson,
        some e.value.toJson, e.reason.map Value.string, some e.timestamp.toJson] := by
    cases hr : e.reason <;>
      simp [RewardEntry.toJson, RewardEntry.fields, Value.entries?, Value.memberOf?, hr]
  have hreason : ((e.reason.map Value.string).getD .null).stringOrNull? = some e.reason := by
    cases e.reason <;> rfl
  simp only [RewardEntry.ofJson?, hentries, Value.string?, RewardKind.ofJson?_toJson,
    Count.count?_toJson, hreason, Time.Instant.instant?_toJson, Option.bind_eq_bind,
    Option.bind_some]

theorem Student.ofJson?_toJson (s : Student) : Student.ofJson? s.toJson = some s := by
  have hentries : s.toJson.entries? Student.fields =
      some [some (.string s.id), some (.string s.name), some s.stamps.toJson,
        some (.array (s.logs.map LogEntry.toJson)),
        some (.array (s.homework.map Homework.toJson))] := by
    simp [Student.toJson, Student.fields, Value.entries?, Value.memberOf?]
  simp only [Student.ofJson?, hentries, Value.string?, Count.count?_toJson, Value.listOrAbsent?,
    listOf?_map LogEntry.ofJson?_toJson, listOf?_map Homework.ofJson?_toJson, Option.bind_eq_bind,
    Option.bind_some]

theorem LogEntry.isWritable_toJson (e : LogEntry) : e.toJson.IsWritable := by
  apply Value.isWritable_object
  simp [Value.isWritable_string, Status.toJson, Time.Instant.toJson]

theorem Homework.isWritable_toJson (h : Homework) : h.toJson.IsWritable := by
  apply Value.isWritable_object
  simp [Value.isWritable_string, Value.isWritable_bool, Time.Instant.toJson]

theorem RewardEntry.isWritable_toJson (e : RewardEntry) : e.toJson.IsWritable := by
  apply Value.isWritable_object
  cases e.reason <;>
    simp [Value.isWritable_string, Value.isWritable_integer, RewardKind.toJson, Count.toJson,
      Time.Instant.toJson]

theorem Student.isWritable_toJson (s : Student) : s.toJson.IsWritable := by
  have hlogs : (Value.array (s.logs.map LogEntry.toJson)).IsWritable := by
    apply Value.isWritable_array
    intro v hv
    obtain ⟨e, -, rfl⟩ := List.mem_map.1 hv
    exact e.isWritable_toJson
  have hhomework : (Value.array (s.homework.map Homework.toJson)).IsWritable := by
    apply Value.isWritable_array
    intro v hv
    obtain ⟨h, -, rfl⟩ := List.mem_map.1 hv
    exact h.isWritable_toJson
  apply Value.isWritable_object
  simp [Value.isWritable_string, Value.isWritable_integer, Count.toJson, hlogs, hhomework]

namespace Collection

theorem recordOfJson?_recordToJson (c : Collection) (r : c.Record) :
    c.recordOfJson? (c.recordToJson r) = some r := by
  cases c with
  | students => exact Student.ofJson?_toJson r
  | grades => exact LogEntry.ofJson?_toJson r
  | rewards => exact RewardEntry.ofJson?_toJson r

theorem isWritable_recordToJson (c : Collection) (r : c.Record) :
    (c.recordToJson r).IsWritable := by
  cases c with
  | students => exact Student.isWritable_toJson r
  | grades => exact LogEntry.isWritable_toJson r
  | rewards => exact RewardEntry.isWritable_toJson r

theorem ofJson?_toJson (c : Collection) (records : List c.Record) :
    c.ofJson? (c.toJson records) = some records :=
  listOf?_map c.recordOfJson?_recordToJson records

theorem isWritable_toJson (c : Collection) (records : List c.Record) :
    (c.toJson records).IsWritable := by
  apply Value.isWritable_array
  intro v hv
  obtain ⟨r, -, rfl⟩ := List.mem_map.1 hv
  exact c.isWritable_recordToJson r

theorem read?_pretty_toJson (c : Collection) (records : List c.Record) :
    (Value.read? (c.toJson records).pretty).bind c.ofJson? = some records := by
  rw [Value.read?_pretty (c.isWritable_toJson records), Option.bind_some, ofJson?_toJson]

theorem isAllBlank_pretty_toJson (c : Collection) (records : List c.Record) :
    Text.isAllBlank (c.toJson records).pretty = false := by
  have hbracket : ∃ rest, (c.toJson records).pretty.toList = '[' :: rest := by
    rw [toJson, Value.pretty, String.toList_ofList]
    cases records.map c.recordToJson with
    | nil => exact ⟨_, Value.layout.eq_7 0⟩
    | cons v items => exact ⟨_, by rw [Value.layout]; rfl⟩
  obtain ⟨rest, hrest⟩ := hbracket
  have hfirst : Text.isBlank '[' = false := by decide
  rw [Text.isAllBlank, hrest, List.all_cons, hfirst, Bool.false_and]

end Collection

end Gradebook
