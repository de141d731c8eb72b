import Gradebook.Proofs.Record.Rearranged

/-!
# Stored forms of records

A record is stored with its members in any order and with members that are no fields among them, in
the items of its lists too, and an empty list may be left out.  Any text of a stored form is read as
the record.  A text of a form in which a field is given twice or one that is required is missing is
read as no record at all.
-/

namespace Gradebook

open Json (Value)
open Json.Value (IsRearranged IsFlawed Rearranged mapM_eq_some_iff memberOf? memberOf?_of_mem)

section Lists

variable {α : Type} {ofJson? : Value → Option α} {storedAs : α → Value → Prop}
  {records : List α} {items : List Value}

theorem listOf?_stored (hread : ∀ a v, storedAs a v → ofJson? v = some a)
    (h : List.Forall₂ storedAs records items) :
    (Value.array items).listOf? ofJson? = some records :=
  mapM_eq_some_iff.2 (h.imp fun a v => hread a v).flip

theorem listOf?_refused {item : Value} (hitem : item ∈ items) (h : ofJson? item = none) :
    (Value.array items).listOf? ofJson? = none := by
  by_contra hsome
  obtain ⟨records, hrecords⟩ := Option.ne_none_iff_exists'.1 hsome
  obtain ⟨hlength, hread⟩ := List.forall₂_iff_get.1 (mapM_eq_some_iff.1 hrecords)
  obtain ⟨i, rfl⟩ := List.mem_iff_get.1 hitem
  have hrecord := hread i.val i.isLt (hlength ▸ i.isLt)
  rw [List.get_eq_getElem] at h hrecord
  rw [h] at hrecord
  cases hrecord

/-- A member that is a list with a refused item is refused. -/
theorem listOrAbsent?_refused {members : List (String × Value)} {name : String}
    {entry : Option Value} {item : Value} (hlist : (name, .array items) ∈ members)
    (hitem : item ∈ items) (h : ofJson? item = none)
    (hentry : memberOf? members name = some entry) :
    Value.listOrAbsent? ofJson? entry = none := by
  rw [memberOf?_of_mem hlist hentry]
  exact listOf?_refused hitem h

/-- An empty list of records may be left out. -/
inductive ListStored (storedAs : α → Value → Prop) : List α → Option Value → Prop
  | absent : ListStored storedAs [] none
  | present {records : List α} {items : List Value} (h : List.Forall₂ storedAs records items) :
      ListStored storedAs records (some (.array items))

theorem ListStored.listOrAbsent? {entry : Option Value}
    (hread : ∀ a v, storedAs a v → ofJson? v = some a) (h : ListStored storedAs records entry) :
    Value.listOrAbsent? ofJson? entry = some records := by
  cases h with
  | absent => rfl
  | present h => exact listOf?_stored hread h

theorem forall₂_toJson {toJson : α → Value} (h : ∀ a, storedAs a (toJson a)) (records : List α) :
    List.Forall₂ storedAs records (records.map toJson) := by
  rw [List.forall₂_map_right_iff, List.forall₂_same]
  exact fun a _ => h a

end Lists

def LogEntry.IsStoredAs (e : LogEntry) (v : Value) : Prop :=
  IsRearranged fields e.toJson v

def Homework.IsStoredAs (h : Homework) (v : Value) : Prop :=
  IsRearranged fields h.toJson v

def RewardEntry.IsStoredAs (e : RewardEntry) (v : Value) : Prop :=
  IsRearranged fields e.toJson v

theorem LogEntry.isStoredAs_toJson (e : LogEntry) : e.IsStoredAs e.toJson :=
  ⟨_, _, rfl, rfl, .same⟩

theorem Homework.isStoredAs_toJson (h : Homework) : h.IsStoredAs h.toJson :=
  ⟨_, _, rfl, rfl, .same⟩

theorem RewardEntry.isStoredAs_toJson (e : RewardEntry) : e.IsStoredAs e.toJson :=
  ⟨_, _, rfl, rfl, .same⟩

theorem LogEntry.ofJson?_stored (e : LogEntry) (v : Value) (h : e.IsStoredAs v) :
    ofJson? v = some e :=
  (readsFields.rearranged h).trans e.ofJson?_toJson

theorem Homework.ofJson?_stored (h : Homework) (v : Value) (hv : h.IsStoredAs v) :
    ofJson? v = some h :=
  (readsFields.rearranged hv).trans h.ofJson?_toJson

theorem RewardEntry.ofJson?_stored (e : RewardEntry) (v : Value) (h : e.IsStoredAs v) :
    ofJson? v = some e :=
  (readsFields.rearranged h).trans e.ofJson?_toJson

namespace Student

/-- The members of a student who has the given grading log and homework list. -/
def membersWith (s : Student) (logs homework : Option Value) : List (String × Value) :=
  [("id", .string s.id), ("name", .string s.name), ("stamps", s.stamps.toJson)] ++
    (logs.map fun v => ("logs", v)).toList ++ (homework.map fun v => ("homework", v)).toList

def IsStoredAs (s : Student) (v : Value) : Prop :=
  ∃ logs homework, ListStored LogEntry.IsStoredAs s.logs logs ∧
    ListStored Homework.IsStoredAs s.homework homework ∧
    IsRearranged fields (.object (s.membersWith logs homework)) v

theorem isStoredAs_toJson (s : Student) : s.IsStoredAs s.toJson :=
  ⟨_, _, .present (forall₂_toJson LogEntry.isStoredAs_toJson s.logs),
    .present (forall₂_toJson Homework.isStoredAs_toJson s.homework), _, _, rfl, rfl, .same⟩

theorem entries?_membersWith (s : Student) (logs homework : Option Value) :
    (Value.object (s.membersWith logs homework)).entries? fields =
      some [some (.string s.id), some (.string s.name), some s.stamps.toJson, logs, homework] := by
  cases logs <;> cases homework <;> simp [membersWith, fields, Value.entries?, memberOf?]

theorem ofJson?_stored (s : Student) (v : Value) (h : s.IsStoredAs v) : ofJson? v = some s := by
  obtain ⟨logs, homework, hlogs, hhomework, hv⟩ := h
  rw [readsFields.rearranged hv]
  simp only [ofJson?, entries?_membersWith, Value.string?, Count.count?_toJson,
    hlogs.listOrAbsent? LogEntry.ofJson?_stored, hhomework.listOrAbsent? Homework.ofJson?_stored,
    Option.bind_eq_bind, Option.bind_some]

/-- The student itself is flawed, or an item of its lists is. -/
inductive IsFlawed : Value → Prop
  | self {v : Value} (h : Value.IsFlawed fields v) : IsFlawed v
  | log {members : List (String × Value)} {items : List Value} {item : Value}
      (hlogs : ("logs", .array items) ∈ members) (hitem : item ∈ items)
      (h : Value.IsFlawed LogEntry.fields item) : IsFlawed (.object members)
  | homework {members : List (String × Value)} {items : List Value} {item : Value}
      (hhomework : ("homework", .array items) ∈ members) (hitem : item ∈ items)
      (h : Value.IsFlawed Homework.fields item) : IsFlawed (.object members)

theorem exists_lists {members : List (String × Value)} {s : Student}
    (h : ofJson? (.object members) = some s) :
    (∃ logs, memberOf? members "logs" = some logs ∧
        Value.listOrAbsent? LogEntry.ofJson? logs = some s.logs) ∧
      ∃ homework, memberOf? members "homework" = some homework ∧
        Value.listOrAbsent? Homework.ofJson? homework = some s.homework := by
  unfold ofJson? at h
  split at h
  next id name stamps logs homework hentries =>
    simp only [Value.entries?, mapM_eq_some_iff, fields, List.forall₂_cons] at hentries
    obtain ⟨-, -, -, hlogs, hhomework, -⟩ := hentries
    simp only [Option.bind_eq_bind, Option.bind_eq_some_iff, Option.some.injEq] at h
    obtain ⟨_, -, _, -, _, -, records, hrecords, items, hitems, rfl⟩ := h
    exact ⟨⟨logs, hlogs, hrecords⟩, homework, hhomework, hitems⟩
  next => cases h

theorem ofJson?_flawed (v : Value) (h : IsFlawed v) : ofJson? v = none := by
  cases h with
  | self h => exact readsFields.flawed h
  | log hlogs hitem h =>
    by_contra hsome
    obtain ⟨s, hs⟩ := Option.ne_none_iff_exists'.1 hsome
    obtain ⟨⟨logs, hmember, hread⟩, -⟩ := exists_lists hs
    rw [listOrAbsent?_refused hlogs hitem (LogEntry.readsFields.flawed h) hmember] at hread
    cases hread
  | homework hhomework hitem h =>
    by_contra hsome
    obtain ⟨s, hs⟩ := Option.ne_none_iff_exists'.1 hsome
    obtain ⟨-, homework, hmember, hread⟩ := exists_lists hs
    rw [listOrAbsent?_refused hhomework hitem (Homework.readsFields.flawed h) hmember] at hread
    cases hread

end Student

/-- Every text of a stored form is read as the record, and no text of a flawed form is read; the
same goes for a list of records, of which one that is flawed spoils the rest. -/
structure ReadsTolerantly {α : Type} (toJson : α → Value) (ofJson? : Value → Option α)
    (storedAs : α → Value → Prop) (isFlawed : Value → Prop) : Prop where
  encoded (a : α) : storedAs a (toJson a) ∧ (toJson a).IsWrittenAs (toJson a).pretty
  stored {a : α} {v : Value} {text : String} (h : storedAs a v) (htext : v.IsWrittenAs text) :
    (Value.read? text).bind ofJson? = some a
  refused {v : Value} {text : String} (h : isFlawed v) (htext : v.IsWrittenAs text) :
    (Value.read? text).bind ofJson? = none
  storedList {records : List α} {items : List Value} {text : String}
    (h : List.Forall₂ storedAs records items) (htext : (Value.array items).IsWrittenAs text) :
    (Value.read? text).bind (·.listOf? ofJson?) = some records
  refusedList {items : List Value} {item : Value} {text : String} (hitem : item ∈ items)
    (h : isFlawed item) (htext : (Value.array items).IsWrittenAs text) :
    (Value.read? text).bind (·.listOf? ofJson?) = none

theorem ReadsTolerantly.of_values {α : Type} {toJson : α → Value} {ofJson? : Value → Option α}
    {storedAs : α → Value → Prop} {isFlawed : Value → Prop}
    (hencoded : ∀ a, storedAs a (toJson a)) (hwritable : ∀ a, (toJson a).IsWritable)
    (hstored : ∀ a v, storedAs a v → ofJson? v = some a)
    (hrefused : ∀ v, isFlawed v → ofJson? v = none) :
    ReadsTolerantly toJson ofJson? storedAs isFlawed where
  encoded a := ⟨hencoded a, (hwritable a).isWrittenAs_pretty⟩
  stored h htext := by rw [htext.read?, Option.bind_some, hstored _ _ h]
  refused h htext := by rw [htext.read?, Option.bind_some, hrefused _ h]
  storedList h htext := by rw [htext.read?, Option.bind_some, listOf?_stored hstored h]
  refusedList hitem h htext := by
    rw [htext.read?, Option.bind_some, listOf?_refused hitem (hrefused _ h)]

/-- Every record is read from any text of its stored forms, and none from a text of a flawed one. -/
theorem stored_records_are_read_in_any_layout :
    ReadsTolerantly LogEntry.toJson LogEntry.ofJson? LogEntry.IsStoredAs
        (IsFlawed LogEntry.fields) ∧
      ReadsTolerantly Homework.toJson Homework.ofJson? Homework.IsStoredAs
        (IsFlawed Homework.fields) ∧
      ReadsTolerantly RewardEntry.toJson RewardEntry.ofJson? RewardEntry.IsStoredAs
        (IsFlawed RewardEntry.fields) ∧
      ReadsTolerantly Student.toJson Student.ofJson? Student.IsStoredAs Student.IsFlawed :=
  ⟨.of_values LogEntry.isStoredAs_toJson LogEntry.isWritable_toJson LogEntry.ofJson?_stored
      fun _ => LogEntry.readsFields.flawed,
    .of_values Homework.isStoredAs_toJson Homework.isWritable_toJson Homework.ofJson?_stored
      fun _ => Homework.readsFields.flawed,
    .of_values RewardEntry.isStoredAs_toJson RewardEntry.isWritable_toJson
      RewardEntry.ofJson?_stored fun _ => RewardEntry.readsFields.flawed,
    .of_values Student.isStoredAs_toJson Student.isWritable_toJson Student.ofJson?_stored
      Student.ofJson?_flawed⟩

namespace Student

/-- A student with one graded question and no homework. -/
def ida : Student :=
  ⟨"ida", "Ida", .zero, [⟨"log-1", "ida", "unit 1", "2", .partly, .epoch⟩], []⟩

def idaLog : Value :=
  .object [("timestamp", Time.Instant.epoch.toJson), ("status", Status.partly.toJson),
    ("question", .string "2"), ("pages", .array [.object [("unit", .integer 7)], .null]),
    ("unit", .string "unit 1"), ("studentId", .string "ida"), ("id", .string "log-1")]

/-- The members of Ida backwards, with two notes among them and without a list of homework. -/
def idaStored : Value :=
  .object [("note", .object [("id", .decimal ['1', '.', '5'])]), ("logs", .array [idaLog]),
    ("stamps", Count.zero.toJson), ("note", .bool true), ("name", .string "Ida"),
    ("id", .string "ida")]

/-- The text of Ida with each token on a line of its own. -/
def idaText : String :=
  String.ofList (idaStored.tokens.flatMap fun t => ['\n'] ++ t.write)

def idaTwiceNamed : Value :=
  .object (ida.membersWith none none ++ [("name", .string "Ida")])

theorem isStoredAs_idaStored : ida.IsStoredAs idaStored := by
  have hlog : LogEntry.IsStoredAs ⟨"log-1", "ida", "unit 1", "2", .partly, .epoch⟩ idaLog :=
    ⟨_, _, rfl, rfl, @Rearranged.extended _ _ [_, _, _] [_, _, _] _ (.reversed _ _) (by decide) _⟩
  have hnote := @Rearranged.extended fields _ [_, _] [_, _] "note"
    (.reversed fields (ida.membersWith (some (.array [idaLog])) none)) (by decide) (.bool true)
  exact ⟨some (.array [idaLog]), none, .present (.cons hlog .nil), .absent, _, _, rfl, rfl,
    @Rearranged.extended _ _ [] _ _ hnote (by decide) _⟩

theorem isWritable_idaStored : idaStored.IsWritable := by
  have hdecimal : (Value.decimal ['1', '.', '5']).IsWritable :=
    Value.isWritable_of_token rfl ⟨by decide, by simp [Json.isNumberChar]⟩
  have hnull : Value.null.IsWritable := Value.isWritable_of_token rfl trivial
  have hlog : idaLog.IsWritable := by
    apply Value.isWritable_object
    simp [hnull, Value.isWritable_string, Value.isWritable_integer, Value.isWritable_array,
      Value.isWritable_object, Time.Instant.toJson, Status.toJson]
  apply Value.isWritable_object
  simp [hdecimal, hlog, Value.isWritable_string, Value.isWritable_bool, Value.isWritable_integer,
    Value.isWritable_array, Value.isWritable_object, Count.toJson]

theorem isWritable_idaTwiceNamed : idaTwiceNamed.IsWritable := by
  apply Value.isWritable_object
  simp [ida, membersWith, Value.isWritable_string, Value.isWritable_integer, Count.toJson]

theorem isFlawed_idaTwiceNamed : IsFlawed idaTwiceNamed :=
  .self ⟨_, rfl, .inl ⟨"name", by decide, by decide⟩⟩

end Student

/-- Ida is read from her members backwards, and not from members that name her twice. -/
theorem rearranged_ida_is_read :
    Student.ida.IsStoredAs Student.idaStored ∧ Student.idaStored.IsWrittenAs Student.idaText ∧
      (Value.read? Student.idaText).bind Student.ofJson? = some Student.ida ∧
      Student.IsFlawed Student.idaTwiceNamed ∧
      (Value.read? Student.idaTwiceNamed.pretty).bind Student.ofJson? = none := by
  have htext : Student.idaStored.IsWrittenAs Student.idaText :=
    Student.isWritable_idaStored.isWrittenAs_flatMap (by simp [Json.isSpace])
  have hread := stored_records_are_read_in_any_layout.2.2.2
  exact ⟨Student.isStoredAs_idaStored, htext, hread.stored Student.isStoredAs_idaStored htext,
    Student.isFlawed_idaTwiceNamed, hread.refused Student.isFlawed_idaTwiceNamed
      Student.isWritable_idaTwiceNamed.isWrittenAs_pretty⟩

end Gradebook
