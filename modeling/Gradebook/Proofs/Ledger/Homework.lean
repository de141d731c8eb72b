import Gradebook.Ledger.Views
import Gradebook.Proofs.Ledger.Identity
import Gradebook.Proofs.Ledger.Portrait

/-!
# Completed homework

Completing a student's homework marks one item and leaves everything else on the roster as it is.
Doing it again changes nothing, and the order in which items are completed does not matter.
-/

namespace Gradebook

theorem updateFirst_idem {α : Type} {p : α → Bool} {f : α → α} (hp : ∀ x, p (f x) = p x)
    (hf : ∀ x, f (f x) = f x) (l : List α) :
    updateFirst p f (updateFirst p f l) = updateFirst p f l := by
  induction l with
  | nil => rfl
  | cons x l ih =>
    by_cases hx : p x = true
    · have hfx : p (f x) = true := (hp x).trans hx
      simp only [updateFirst, if_pos hx, if_pos hfx, hf]
    · simp only [updateFirst, if_neg hx, ih]

/-- Changes that commute on each member, and that keep each other's condition, can be made in
either order. -/
theorem updateFirst_comm {α : Type} {p q : α → Bool} {f g : α → α} (hp : ∀ x, p (g x) = p x)
    (hq : ∀ x, q (f x) = q x) (hfg : ∀ x, f (g x) = g (f x)) (l : List α) :
    updateFirst p f (updateFirst q g l) = updateFirst q g (updateFirst p f l) := by
  induction l with
  | nil => rfl
  | cons x l ih =>
    by_cases hpx : p x = true
    · by_cases hqx : q x = true
      · have hpgx : p (g x) = true := (hp x).trans hpx
        have hqfx : q (f x) = true := (hq x).trans hqx
        simp only [updateFirst, if_pos hpx, if_pos hqx, if_pos hpgx, if_pos hqfx, hfg]
      · have hqfx : ¬ q (f x) = true := by rwa [hq x]
        simp only [updateFirst, if_pos hpx, if_neg hqx, if_neg hqfx]
    · by_cases hqx : q x = true
      · have hpgx : ¬ p (g x) = true := by rwa [hp x]
        simp only [updateFirst, if_neg hpx, if_pos hqx, if_neg hpgx]
      · simp only [updateFirst, if_neg hpx, if_neg hqx, ih]

namespace Student

def completing (homework : RecordId) (s : Student) : Student :=
  { s with homework := updateFirst (·.id = homework) Homework.complete s.homework }

theorem id_completing (homework : RecordId) (s : Student) : (s.completing homework).id = s.id := rfl

theorem homeworkIds_completing (homework : RecordId) (s : Student) :
    (s.completing homework).homeworkIds = s.homeworkIds := by
  exact map_updateFirst _ Homework.id_complete s.homework

theorem completing_idem (homework : RecordId) (s : Student) :
    (s.completing homework).completing homework = s.completing homework := by
  have hitems := updateFirst_idem (p := fun item : Homework => item.id = homework)
    (f := Homework.complete) (fun item => by rw [item.id_complete]) Homework.complete_complete
    s.homework
  simp only [completing, hitems]

theorem completing_comm (homework other : RecordId) (s : Student) :
    (s.completing other).completing homework = (s.completing homework).completing other := by
  have hitems := updateFirst_comm (p := fun item : Homework => item.id = homework)
    (q := fun item : Homework => item.id = other) (f := Homework.complete) (g := Homework.complete)
    (fun item => by rw [item.id_complete]) (fun item => by rw [item.id_complete]) (fun _ => rfl)
    s.homework
  simp only [completing, hitems]

theorem completing_missing {s : Student} {homework : RecordId} (h : homework ∉ s.homeworkIds) :
    s.completing homework = s := by
  have hitems : updateFirst (·.id = homework) Homework.complete s.homework = s.homework := by
    apply updateFirst_missing
    intro item hitem
    refine decide_eq_false ?_
    rintro rfl
    exact h (List.mem_map_of_mem hitem)
  rw [completing, hitems]

/-- The split of a student's homework at the first item with an identity. -/
theorem exists_item {s : Student} {homework : RecordId} (h : homework ∈ s.homeworkIds) :
    ∃ left item right, s.homework = left ++ item :: right ∧ (∀ h ∈ left, h.id ≠ homework) ∧
      item.id = homework ∧
      s.completing homework = { s with homework := left ++ item.complete :: right } := by
  have hfound : (s.homework.find? (·.id = homework)).isSome := by
    obtain ⟨item, hitem, hid⟩ := List.mem_map.1 h
    exact List.find?_isSome.2 ⟨item, hitem, decide_eq_true hid⟩
  obtain ⟨item, hitem⟩ := Option.isSome_iff_exists.1 hfound
  obtain ⟨hid, left, right, hsplit, hleft⟩ := List.find?_eq_some_iff_append.1 hitem
  have hothers : ∀ h ∈ left, decide (h.id = homework) = false := by
    intro h hh
    simpa using hleft h hh
  refine ⟨left, item, right, hsplit, fun h hh => of_decide_eq_false (hothers h hh),
    of_decide_eq_true hid, ?_⟩
  rw [completing, hsplit]
  exact congrArg (fun l => { s with homework := l }) (updateFirst_append hothers hid _ right)

end Student

namespace Roster

theorem completeHomework_eq (r : Roster) (id : StudentId) (homework : RecordId) :
    r.completeHomework id homework = r.update id (Student.completing homework) := rfl

theorem completeHomework_idem (r : Roster) (id : StudentId) (homework : RecordId) :
    (r.completeHomework id homework).completeHomework id homework =
      r.completeHomework id homework :=
  updateFirst_idem (p := fun s : Student => s.id = id) (f := Student.completing homework)
    (fun _ => rfl) (Student.completing_idem homework) r

theorem completeHomework_comm (r : Roster) (id : StudentId) (homework : RecordId)
    (other : StudentId) (item : RecordId) :
    (r.completeHomework other item).completeHomework id homework =
      (r.completeHomework id homework).completeHomework other item :=
  updateFirst_comm (p := fun s : Student => s.id = id) (q := fun s : Student => s.id = other)
    (f := Student.completing homework) (g := Student.completing item)
    (fun _ => rfl) (fun _ => rfl) (Student.completing_comm homework item) r

theorem has_completeHomework (r : Roster) (id : StudentId) (homework : RecordId)
    (other : StudentId) : (r.completeHomework id homework).has other = r.has other := by
  rw [Bool.eq_iff_iff, has_iff, has_iff, completeHomework_eq,
    ids_update _ _ (Student.id_completing homework)]

theorem hasHomework_iff {r : Roster} {id : StudentId} {homework : RecordId} :
    r.hasHomework id homework = true ↔ ∃ s, r.get? id = some s ∧ homework ∈ s.homeworkIds := by
  unfold hasHomework
  cases r.get? id with
  | none => simp
  | some s => simp [Student.homeworkIds]

/-- Where identities are unique, a student owns an item just where the look-up finds it. -/
theorem hasHomework_iff_exists {r : Roster} (hr : r.ids.Nodup) {id : StudentId}
    {homework : RecordId} :
    r.hasHomework id homework = true ↔
      ∃ s ∈ r, s.id = id ∧ ∃ item ∈ s.homework, item.id = homework := by
  rw [hasHomework_iff]
  constructor
  · rintro ⟨s, hs, hitem⟩
    obtain ⟨hmem, hid⟩ := get?_some hs
    exact ⟨s, hmem, hid, List.mem_map.1 hitem⟩
  · rintro ⟨s, hmem, rfl, hitem⟩
    exact ⟨s, find?_key hr hmem, List.mem_map.2 hitem⟩

theorem hasHomework_completeHomework (r : Roster) (id : StudentId) (homework : RecordId)
    (other : StudentId) (item : RecordId) :
    (r.completeHomework id homework).hasHomework other item = r.hasHomework other item := by
  rw [Bool.eq_iff_iff, hasHomework_iff, hasHomework_iff, completeHomework_eq,
    get?_update _ _ _ (Student.id_completing homework)]
  split
  next =>
    cases r.get? other with
    | none => simp
    | some s => simp [Student.homeworkIds_completing]
  next => rfl

/-- Where the student or the item is not there, nothing is changed. -/
theorem completeHomework_missing {r : Roster} {id : StudentId} {homework : RecordId}
    (h : r.hasHomework id homework = false) : r.completeHomework id homework = r := by
  cases hs : r.get? id with
  | none => exact update_missing hs _
  | some s =>
    have hitem : homework ∉ s.homeworkIds := by
      intro hmem
      rw [hasHomework_iff.2 ⟨s, hs, hmem⟩] at h
      cases h
    obtain ⟨before, after, hr, -, -, hnext⟩ := replaces_update hs (Student.completing homework)
    rw [completeHomework_eq, hnext, Student.completing_missing hitem, hr]

/-- The second roster has a completed item in the place of the first one with an identity that a
student has, and is otherwise the same. -/
structure Completes (r : Roster) (id : StudentId) (homework : RecordId) (s : Student)
    (item : Homework) (next : Roster) : Prop where
  identity : item.id = homework
  place : ∃ left right, s.homework = left ++ item :: right ∧ (∀ h ∈ left, h.id ≠ homework) ∧
    r.Replaces id s { s with homework := left ++ { item with completed := true } :: right } next

theorem completes {r : Roster} {id : StudentId} {homework : RecordId}
    (h : r.hasHomework id homework = true) :
    ∃ s item, r.Completes id homework s item (r.completeHomework id homework) := by
  obtain ⟨s, hs, hitem⟩ := hasHomework_iff.1 h
  obtain ⟨left, item, right, hsplit, hleft, hid, hdone⟩ := s.exists_item hitem
  have hreplaces := replaces_update hs (Student.completing homework)
  rw [hdone, item.complete_eq] at hreplaces
  exact ⟨s, item, hid, left, right, hsplit, hleft, hreplaces⟩

/-- The student has one open item less if the item was open, and as many as before if it was not;
all other students are as before. -/
theorem Completes.count {r next : Roster} {id : StudentId} {homework : RecordId} {s : Student}
    {item : Homework} (h : r.Completes id homework s item next) :
    (∃ t, next.get? id = some t ∧
      t.incompleteHomework.length + (if item.completed then 0 else 1) =
        s.incompleteHomework.length) ∧
      ∀ other, other ≠ id → next.get? other = r.get? other := by
  obtain ⟨left, right, hsplit, -, hreplaces⟩ := h.place
  have hid : s.id = id := (get?_some hreplaces.found).2
  refine ⟨⟨_, (hreplaces.symm hid).found, ?_⟩, fun other => hreplaces.get?_other hid⟩
  simp only [Student.incompleteHomework, hsplit, List.filter_append, List.length_append,
    List.filter_cons, Bool.not_true, Bool.false_eq_true, if_false]
  cases item.completed with
  | true => rfl
  | false =>
    simp only [Bool.not_false, Bool.false_eq_true, if_true, if_false, List.length_cons]
    omega

end Roster

end Gradebook
