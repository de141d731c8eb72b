import Gradebook.Ledger.Roster

/-!
# Identities on the roster

A change to one student keeps the identities of the roster, and where they are unique it changes no
other student.  Where they are not, the first student with an identity is the one that is changed.
-/

namespace Gradebook

theorem map_updateFirst {α β : Type} (p : α → Bool) {f : α → α} {g : α → β}
    (h : ∀ x, g (f x) = g x) (l : List α) : (updateFirst p f l).map g = l.map g := by
  induction l with
  | nil => rfl
  | cons x l ih =>
    unfold updateFirst
    split
    · rw [List.map_cons, List.map_cons, h]
    · rw [List.map_cons, List.map_cons, ih]

theorem updateFirst_append {α : Type} {p : α → Bool} {before : List α} {x : α}
    (hbefore : ∀ y ∈ before, p y = false) (hx : p x = true) (f : α → α) (after : List α) :
    updateFirst p f (before ++ x :: after) = before ++ f x :: after := by
  induction before with
  | nil => exact if_pos hx
  | cons y before ih =>
    obtain ⟨hy, hrest⟩ := List.forall_mem_cons.1 hbefore
    rw [List.cons_append, updateFirst, if_neg (ne_true_of_eq_false hy), ih hrest, List.cons_append]

theorem updateFirst_missing {α : Type} {p : α → Bool} {l : List α} (h : ∀ x ∈ l, p x = false)
    (f : α → α) : updateFirst p f l = l := by
  induction l with
  | nil => rfl
  | cons x l ih =>
    obtain ⟨hx, hrest⟩ := List.forall_mem_cons.1 h
    rw [updateFirst, if_neg (ne_true_of_eq_false hx), ih hrest]

namespace Roster

def ids (r : Roster) : List StudentId :=
  r.map (·.id)

theorem has_iff (r : Roster) (id : StudentId) : r.has id = true ↔ id ∈ r.ids := by
  unfold has get? ids
  rw [List.find?_isSome, List.mem_map]
  simp only [decide_eq_true_eq]

theorem ids_update (r : Roster) (id : StudentId) {f : Student → Student}
    (h : ∀ s, (f s).id = s.id) : (r.update id f).ids = r.ids :=
  map_updateFirst _ h r

theorem ids_add (r : Roster) (s : Student) : (r.add s).ids = r.ids ++ [s.id] := by
  unfold ids add
  rw [List.map_append]
  rfl

/-- With unique identities, a student after a change is the one that was changed, or another one
that is as before. -/
theorem mem_update {r : Roster} (hr : r.ids.Nodup) {id : StudentId} {f : Student → Student}
    {s : Student} (h : s ∈ r.update id f) :
    (s ∈ r ∧ s.id ≠ id) ∨ ∃ t ∈ r, t.id = id ∧ s = f t := by
  unfold update at h
  induction r with
  | nil => cases h
  | cons t r ih =>
    obtain ⟨hfresh, hrest⟩ := List.nodup_cons.1 hr
    unfold updateFirst at h
    split at h
    next hid =>
      have htid : t.id = id := of_decide_eq_true hid
      rcases List.mem_cons.1 h with rfl | hs
      · exact .inr ⟨t, List.mem_cons_self, htid, rfl⟩
      · refine .inl ⟨List.mem_cons_of_mem t hs, ?_⟩
        intro he
        have hmem : s.id ∈ ids r := List.mem_map_of_mem hs
        rw [he, ← htid] at hmem
        exact hfresh hmem
    next hid =>
      have htid : t.id ≠ id := fun he => hid (decide_eq_true he)
      rcases List.mem_cons.1 h with rfl | hs
      · exact .inl ⟨List.mem_cons_self, htid⟩
      · rcases ih hrest hs with ⟨hmem, hne⟩ | ⟨u, hu, huid, he⟩
        · exact .inl ⟨List.mem_cons_of_mem t hmem, hne⟩
        · exact .inr ⟨u, List.mem_cons_of_mem t hu, huid, he⟩

theorem get?_eq_none_iff (r : Roster) (id : StudentId) : r.get? id = none ↔ id ∉ ids r := by
  rw [← has_iff, has, Option.not_isSome_iff_eq_none]

theorem get?_some {r : Roster} {id : StudentId} {s : Student} (h : r.get? id = some s) :
    s ∈ r ∧ s.id = id := by
  have hid := List.find?_some (p := fun t : Student => decide (t.id = id)) h
  exact ⟨List.mem_of_find?_eq_some h, of_decide_eq_true hid⟩

theorem update_missing {r : Roster} {id : StudentId} (h : r.get? id = none)
    (f : Student → Student) : r.update id f = r := by
  apply updateFirst_missing
  intro s hs
  simpa using List.find?_eq_none.1 h s hs

/-- The second roster has another record in the place of the first student with an identity, and is
otherwise the same. -/
def Replaces (r : Roster) (id : StudentId) (s t : Student) (next : Roster) : Prop :=
  ∃ before after : List Student, r = before ++ s :: after ∧ id ∉ ids before ∧ s.id = id ∧
    next = before ++ t :: after

theorem Replaces.found {r next : Roster} {id : StudentId} {s t : Student}
    (h : r.Replaces id s t next) : r.get? id = some s := by
  obtain ⟨before, after, rfl, hbefore, hs, -⟩ := h
  have hmissing : before.find? (·.id = id) = none := (get?_eq_none_iff before id).2 hbefore
  unfold get?
  rw [List.find?_append, hmissing, Option.none_or, List.find?_cons, decide_eq_true hs]

theorem Replaces.symm {r next : Roster} {id : StudentId} {s t : Student}
    (h : r.Replaces id s t next) (ht : t.id = id) : next.Replaces id t s r := by
  obtain ⟨before, after, rfl, hbefore, -, rfl⟩ := h
  exact ⟨before, after, rfl, hbefore, ht, rfl⟩

theorem Replaces.get?_other {r next : Roster} {id other : StudentId} {s t : Student}
    (h : r.Replaces id s t next) (ht : t.id = id) (hother : other ≠ id) :
    next.get? other = r.get? other := by
  obtain ⟨before, after, rfl, -, hs, rfl⟩ := h
  have hskip {u : Student} (hu : u.id = id) : decide (u.id = other) = false := by
    rw [hu]
    exact decide_eq_false hother.symm
  unfold get?
  rw [List.find?_append, List.find?_append, List.find?_cons, List.find?_cons, hskip hs, hskip ht]

theorem replaces_update {r : Roster} {id : StudentId} {s : Student} (h : r.get? id = some s)
    (f : Student → Student) : r.Replaces id s (f s) (r.update id f) := by
  obtain ⟨hs, before, after, rfl, hbefore⟩ := List.find?_eq_some_iff_append.1 h
  have hothers : ∀ t ∈ before, decide (t.id = id) = false := by
    intro t ht
    simpa using hbefore t ht
  refine ⟨before, after, rfl, ?_, of_decide_eq_true hs, updateFirst_append hothers hs f after⟩
  rw [ids, List.mem_map]
  rintro ⟨t, ht, hid⟩
  exact of_decide_eq_false (hothers t ht) hid

theorem update_congr {r : Roster} {id : StudentId} {s : Student} (h : r.get? id = some s)
    {f g : Student → Student} (hfg : f s = g s) : r.update id f = r.update id g := by
  obtain ⟨hs, before, after, rfl, hbefore⟩ := List.find?_eq_some_iff_append.1 h
  have hothers : ∀ t ∈ before, decide (t.id = id) = false := by
    intro t ht
    simpa using hbefore t ht
  unfold update
  rw [updateFirst_append hothers hs, updateFirst_append hothers hs, hfg]

theorem get?_update (r : Roster) (id other : StudentId) {change : Student → Student}
    (h : ∀ s, (change s).id = s.id) :
    (r.update id change).get? other =
      if other = id then (r.get? other).map change else r.get? other := by
  cases hs : r.get? id with
  | none =>
    rw [update_missing hs]
    split
    next heq => rw [heq, hs, Option.map_none]
    next => rfl
  | some s =>
    have hreplaces := replaces_update hs change
    have hid : (change s).id = id := (h s).trans (get?_some hs).2
    split
    next heq => rw [heq, hs, Option.map_some, (hreplaces.symm hid).found]
    next hother => exact hreplaces.get?_other hid hother

theorem replaces_appendLog {r : Roster} {id : StudentId} {s : Student} (h : r.get? id = some s)
    (e : LogEntry) : r.Replaces id s { s with logs := s.logs ++ [e] } (r.appendLog id e) :=
  replaces_update h _

theorem replaces_appendHomework {r : Roster} {id : StudentId} {s : Student}
    (h : r.get? id = some s) (item : Homework) :
    r.Replaces id s { s with homework := s.homework ++ [item] } (r.appendHomework id item) :=
  replaces_update h _

theorem replaces_adjustStamps {r : Roster} {id : StudentId} {s : Student} (h : r.get? id = some s)
    (delta : Int) :
    r.Replaces id s { s with stamps := s.stamps.adjust delta } (r.adjustStamps id delta) :=
  replaces_update h _

/-- A student stands in the place of another also where nothing is changed. -/
theorem replaces_self {r : Roster} {id : StudentId} {s : Student} (h : r.get? id = some s) :
    r.Replaces id s s r := by
  obtain ⟨before, after, hr, hbefore, hs, -⟩ := replaces_update h fun u => u
  exact ⟨before, after, hr, hbefore, hs, hr⟩

end Roster

end Gradebook
