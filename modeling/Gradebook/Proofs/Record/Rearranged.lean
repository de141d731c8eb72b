import Gradebook.Proofs.Record.RoundTrip
import Mathlib.Data.List.Forall2

/-!
# Rearranged members

What a reader by field names finds in an object is the same after its members are put in another
order and members that are no fields are put among them.  A field given twice, or a field missing
that is not optional, is not passed over.
-/

namespace Gradebook

open Json (Value)

namespace Json.Value

theorem mapM_eq_some_iff {α β : Type} {f : α → Option β} {l : List α} {m : List β} :
    l.mapM f = some m ↔ List.Forall₂ (fun a b => f a = some b) l m := by
  induction l generalizing m with
  | nil => simp [eq_comm]
  | cons a l ih =>
    rw [List.mapM_cons, List.forall₂_cons_left_iff]
    simp only [Option.bind_eq_bind, Option.bind_eq_some_iff, ih, Option.pure_def,
      Option.some.injEq]
    constructor
    · rintro ⟨b, hb, rest, hrest, rfl⟩
      exact ⟨b, rest, hb, hrest, rfl⟩
    · rintro ⟨b, rest, hb, hrest, rfl⟩
      exact ⟨b, hb, rest, hrest, rfl⟩

variable {fields : List String} {members all : List (String × Value)} {field : String}

theorem memberOf?_perm (h : members.Perm all) (field : String) :
    memberOf? members field = memberOf? all field := by
  have hsame := h.filter (·.1 = field)
  unfold memberOf?
  generalize members.filter (·.1 = field) = found at hsame
  generalize all.filter (·.1 = field) = others at hsame
  match found, others, hsame with
  | [], others, hsame => rw [List.nil_perm.1 hsame]
  | [m], others, hsame => rw [List.singleton_perm.1 hsame]
  | _ :: _ :: _, [], hsame => exact absurd hsame.length_eq (by simp)
  | _ :: _ :: _, [_], hsame => exact absurd hsame.length_eq (by simp)
  | _ :: _ :: _, _ :: _ :: _, _ => rfl

theorem memberOf?_insert {before after : List (String × Value)} {name : String} (v : Value)
    (h : name ≠ field) :
    memberOf? (before ++ (name, v) :: after) field = memberOf? (before ++ after) field := by
  have hskip : (before ++ (name, v) :: after).filter (·.1 = field) =
      (before ++ after).filter (·.1 = field) := by
    simp [h]
  simp only [memberOf?, hskip]

theorem memberOf?_of_mem {v : Value} {entry : Option Value} (hmem : (field, v) ∈ members)
    (h : memberOf? members field = some entry) : entry = some v := by
  have hfound : (field, v) ∈ members.filter (·.1 = field) :=
    List.mem_filter.2 ⟨hmem, decide_eq_true rfl⟩
  unfold memberOf? at h
  split at h
  next hnone =>
    rw [hnone] at hfound
    cases hfound
  next m hone =>
    rw [hone, List.mem_singleton] at hfound
    rw [← Option.some.inj h, ← hfound]
  next => cases h

theorem memberOf?_repeated (h : 2 ≤ (members.map Prod.fst).count field) :
    memberOf? members field = none := by
  have hlength : 2 ≤ (members.filter (·.1 = field)).length := by
    rw [List.count_eq_countP, List.countP_map, List.countP_eq_length_filter] at h
    simpa only [Function.comp_def, beq_eq_decide] using h
  unfold memberOf?
  split
  next hnone =>
    rw [hnone] at hlength
    simp at hlength
  next hone =>
    rw [hone] at hlength
    simp at hlength
  next => rfl

theorem memberOf?_missing (h : field ∉ members.map Prod.fst) :
    memberOf? members field = some none := by
  have hnone : members.filter (·.1 = field) = [] := by
    rw [List.filter_eq_nil_iff]
    intro m hm hname
    exact h (List.mem_map.2 ⟨m, hm, of_decide_eq_true hname⟩)
  simp only [memberOf?, hnone]

/-- What becomes of the members of a record when they are put in another order and members that are
no fields of the record are put among them. -/
inductive Rearranged (fields : List String) (members : List (String × Value)) :
    List (String × Value) → Prop
  | same : Rearranged fields members members
  | permuted {all others : List (String × Value)} (h : Rearranged fields members all)
      (hperm : all.Perm others) : Rearranged fields members others
  | extended {before after : List (String × Value)} {name : String}
      (h : Rearranged fields members (before ++ after)) (hname : name ∉ fields) (v : Value) :
      Rearranged fields members (before ++ (name, v) :: after)

theorem Rearranged.reversed (fields : List String) (members : List (String × Value)) :
    Rearranged fields members members.reverse :=
  .permuted .same (List.reverse_perm members).symm

theorem Rearranged.memberOf?_eq (h : Rearranged fields members all) (hfield : field ∈ fields) :
    memberOf? all field = memberOf? members field := by
  induction h with
  | same => rfl
  | permuted _ hperm ih => rw [← memberOf?_perm hperm, ih]
  | @extended before after name _ hname v ih =>
    have hne : name ≠ field := fun heq => hname (heq ▸ hfield)
    rw [memberOf?_insert v hne, ih]

/-- The object `v` is `u` with its members rearranged. -/
def IsRearranged (fields : List String) (u v : Value) : Prop :=
  ∃ members all, u = object members ∧ v = object all ∧ Rearranged fields members all

/-- The fields that a record may be stored without. -/
def optionalFields : List String := ["logs", "homework", "reason"]

/-- The object has a field twice, or lacks one that is not optional. -/
def IsFlawed (fields : List String) (v : Value) : Prop :=
  ∃ members, v = object members ∧
    ((∃ field ∈ fields, 2 ≤ (members.map Prod.fst).count field) ∨
      ∃ field ∈ fields, field ∉ optionalFields ∧ field ∉ members.map Prod.fst)

/-- What a reader makes of an object depends on the entries under its field names, each of which it
looks up, and of which only the optional ones may be absent. -/
structure ReadsFields {α : Type} (ofJson? : Value → Option α) (fields : List String) : Prop where
  congr {u v : Value} (h : u.entries? fields = v.entries? fields) : ofJson? u = ofJson? v
  entry {members : List (String × Value)} {a : α} (h : ofJson? (object members) = some a) :
    ∀ field ∈ fields, ∃ entry, memberOf? members field = some entry ∧
      (field ∉ optionalFields → entry ≠ none)

theorem exists_entry_of_entries? {entries : List (Option Value)}
    (h : (object members).entries? fields = some entries)
    (hentries : ∀ e ∈ fields.zip entries, e.1 ∉ optionalFields → e.2 ≠ none) :
    ∀ field ∈ fields, ∃ entry, memberOf? members field = some entry ∧
      (field ∉ optionalFields → entry ≠ none) := by
  obtain ⟨hlength, hmembers⟩ := List.forall₂_iff_zip.1 (mapM_eq_some_iff.1 h)
  intro field hfield
  obtain ⟨i, hi, rfl⟩ := List.mem_iff_getElem.1 hfield
  have hpair : (fields[i], entries[i]) ∈ fields.zip entries :=
    List.mem_iff_getElem.2 ⟨i, by rw [List.length_zip]; omega, List.getElem_zip⟩
  exact ⟨entries[i], hmembers hpair, hentries _ hpair⟩

namespace ReadsFields

variable {α : Type} {ofJson? : Value → Option α} {u v : Value} {a : α}

theorem rearranged (hreads : ReadsFields ofJson? fields) (h : IsRearranged fields u v) :
    ofJson? v = ofJson? u := by
  obtain ⟨members, all, rfl, rfl, hall⟩ := h
  apply hreads.congr
  apply Option.ext
  intro entries
  simp only [entries?, mapM_eq_some_iff, List.forall₂_iff_get]
  apply and_congr_right
  intro _
  apply forall_congr'
  intro i
  apply forall_congr'
  intro hi
  rw [hall.memberOf?_eq (List.get_mem fields ⟨i, hi⟩)]

theorem flawed (hreads : ReadsFields ofJson? fields) (h : IsFlawed fields v) :
    ofJson? v = none := by
  obtain ⟨members, rfl, hflaw⟩ := h
  by_contra hsome
  obtain ⟨a, ha⟩ := Option.ne_none_iff_exists'.1 hsome
  rcases hflaw with ⟨field, hfield, htwice⟩ | ⟨field, hfield, hrequired, habsent⟩
  · obtain ⟨entry, hentry, -⟩ := hreads.entry ha field hfield
    rw [memberOf?_repeated htwice] at hentry
    cases hentry
  · obtain ⟨entry, hentry, hpresent⟩ := hreads.entry ha field hfield
    rw [memberOf?_missing habsent] at hentry
    exact hpresent hrequired (Option.some.inj hentry).symm

end ReadsFields

end Json.Value

open Json.Value (ReadsFields exists_entry_of_entries? optionalFields)

theorem LogEntry.readsFields : ReadsFields LogEntry.ofJson? LogEntry.fields where
  congr h := by rw [ofJson?, ofJson?, h]
  entry h := by
    unfold ofJson? at h
    split at h
    next hentries => exact exists_entry_of_entries? hentries (by simp [fields])
    next => cases h

theorem Homework.readsFields : ReadsFields Homework.ofJson? Homework.fields where
  congr h := by rw [ofJson?, ofJson?, h]
  entry h := by
    unfold ofJson? at h
    split at h
    next hentries => exact exists_entry_of_entries? hentries (by simp [fields])
    next => cases h

theorem RewardEntry.readsFields : ReadsFields RewardEntry.ofJson? RewardEntry.fields where
  congr h := by rw [ofJson?, ofJson?, h]
  entry h := by
    unfold ofJson? at h
    split at h
    next hentries =>
      exact exists_entry_of_entries? hentries (by simp [fields, optionalFields])
    next => cases h

theorem Student.readsFields : ReadsFields Student.ofJson? Student.fields where
  congr h := by rw [ofJson?, ofJson?, h]
  entry h := by
    unfold ofJson? at h
    split at h
    next hentries =>
      exact exists_entry_of_entries? hentries (by simp [fields, optionalFields])
    next => cases h

end Gradebook
