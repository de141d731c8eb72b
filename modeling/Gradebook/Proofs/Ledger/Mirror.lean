import Gradebook.Ledger.Views
import Gradebook.Proofs.Ledger.Dispatch

/-!
# The log of all students and the logs of each

A grade is recorded twice, in the log of all students and in the log of its student.  On ledgers
whose roster has unique identities, the entries of a student in the first are the second, entry by
entry, and no step of a command on a student of the roster changes that.
-/

namespace Gradebook

/-- Ledgers in which the log of all students holds the logs of the students, each in its order, and
nothing else, and every reward belongs to a student. -/
structure Ledgers.Mirrors (l : Ledgers) : Prop where
  unique : (Roster.ids l.roster).Nodup
  logs : ∀ s ∈ l.roster, l.gradesOf s.id = s.logs
  grades : ∀ e ∈ l.grades, e.studentId ∈ Roster.ids l.roster
  rewards : ∀ e ∈ l.rewards, e.studentId ∈ Roster.ids l.roster

namespace Ledgers.Mirrors

theorem empty : Ledgers.empty.Mirrors where
  unique := List.nodup_nil
  logs := by
    intro s hs
    cases hs
  grades := by
    intro e he
    cases he
  rewards := by
    intro e he
    cases he

theorem add {l : Ledgers} (h : l.Mirrors) {id : StudentId} (hid : id ∉ Roster.ids l.roster)
    (name : String) : Mirrors { l with roster := l.roster.add (.new id name) } where
  unique := by
    rw [Roster.ids_add, List.nodup_append]
    refine ⟨h.unique, List.nodup_cons.2 ⟨List.not_mem_nil, List.nodup_nil⟩, ?_⟩
    intro a ha b hb hab
    rw [List.mem_singleton] at hb
    rw [hab, hb] at ha
    exact hid ha
  logs := by
    intro s hs
    rcases List.mem_append.1 hs with hs | hs
    · exact h.logs s hs
    · rw [List.mem_singleton] at hs
      rw [hs]
      -- entries belong to students of the old roster, which the new one is not on
      apply List.filter_eq_nil_iff.2
      intro e he heq
      have hstudent := h.grades e he
      rw [of_decide_eq_true heq] at hstudent
      exact hid hstudent
  grades := by
    intro e he
    rw [Roster.ids_add]
    exact List.mem_append_left _ (h.grades e he)
  rewards := by
    intro e he
    rw [Roster.ids_add]
    exact List.mem_append_left _ (h.rewards e he)

theorem update {l : Ledgers} (h : l.Mirrors) (id : StudentId) {change : Student → Student}
    (hchange : ∀ s, (change s).id = s.id ∧ (change s).logs = s.logs) :
    Mirrors { l with roster := l.roster.update id change } where
  unique := by
    rw [Roster.ids_update _ _ fun s => (hchange s).1]
    exact h.unique
  logs := by
    intro s hs
    rcases Roster.mem_update h.unique hs with ⟨hmem, -⟩ | ⟨t, ht, -, rfl⟩
    · exact h.logs s hmem
    · rw [(hchange t).1, (hchange t).2]
      exact h.logs t ht
  grades := by
    intro e he
    rw [Roster.ids_update _ _ fun s => (hchange s).1]
    exact h.grades e he
  rewards := by
    intro e he
    rw [Roster.ids_update _ _ fun s => (hchange s).1]
    exact h.rewards e he

/-- A grade of a student goes to the end of both logs. -/
theorem grade {l : Ledgers} (h : l.Mirrors) {e : LogEntry}
    (hid : e.studentId ∈ Roster.ids l.roster) :
    Mirrors ⟨l.roster.appendLog e.studentId e, l.grades ++ [e], l.rewards⟩ := by
  have hids : Roster.ids (l.roster.appendLog e.studentId e) = Roster.ids l.roster :=
    Roster.ids_update _ _ fun s => rfl
  refine ⟨?_, ?_, ?_, ?_⟩
  · rw [hids]
    exact h.unique
  · intro s hs
    -- in the log of all students the entry is seen by its own student alone
    have hsplit : ∀ id, Ledgers.gradesOf
        ⟨l.roster.appendLog e.studentId e, l.grades ++ [e], l.rewards⟩ id =
          l.gradesOf id ++ if e.studentId = id then [e] else [] := by
      intro id
      simp only [Ledgers.gradesOf, List.filter_append, List.filter_cons, List.filter_nil,
        decide_eq_true_eq]
    rw [hsplit]
    rcases Roster.mem_update h.unique hs with ⟨hmem, hne⟩ | ⟨t, ht, htid, rfl⟩
    · rw [if_neg (Ne.symm hne), List.append_nil]
      exact h.logs s hmem
    · rw [if_pos htid.symm]
      exact congrArg (· ++ [e]) (h.logs t ht)
  · intro a ha
    rw [hids]
    rcases List.mem_append.1 ha with ha | ha
    · exact h.grades a ha
    · rw [List.mem_singleton] at ha
      rw [ha]
      exact hid
  · intro a ha
    rw [hids]
    exact h.rewards a ha

theorem reward {l : Ledgers} (h : l.Mirrors) {e : RewardEntry}
    (hid : e.studentId ∈ Roster.ids l.roster) : Mirrors { l with rewards := l.rewards ++ [e] } where
  unique := h.unique
  logs := h.logs
  grades := h.grades
  rewards := by
    intro a ha
    rcases List.mem_append.1 ha with ha | ha
    · exact h.rewards a ha
    · rw [List.mem_singleton] at ha
      rw [ha]
      exact hid

/-- On ledgers that mirror, the answers of a student with a status are those in the log of all
students. -/
theorem gradesWith {l : Ledgers} (h : l.Mirrors) {s : Student} (hs : s ∈ l.roster)
    (status : Status) : l.gradesWith s.id status = s.answersWith status := by
  unfold Ledgers.gradesWith
  rw [h.logs s hs]
  rfl

end Ledgers.Mirrors

namespace Desk

variable {κ : Type} [IdClock κ]

theorem mirrors_apply {d : Desk κ} (h : d.ledgers.Mirrors) {id : StudentId}
    (hid : id ∈ Roster.ids d.ledgers.roster) (a : Action) : (d.apply id a).ledgers.Mirrors := by
  cases a with
  | recordGrade unit question status =>
    exact h.grade (e := (d.recordGrade id unit question status).1) hid
  | assignHomework unit range => exact h.update id fun s => ⟨rfl, rfl⟩
  | adjustStamps delta => exact h.update id fun s => ⟨rfl, rfl⟩
  | recordReward kind value => exact h.reward hid

theorem mirrors_foldl_apply {id : StudentId} (actions : List Action) {d : Desk κ}
    (h : d.ledgers.Mirrors) (hid : id ∈ Roster.ids d.ledgers.roster) :
    (actions.foldl (·.apply id) d).ledgers.Mirrors := by
  induction actions generalizing d with
  | nil => exact h
  | cons a actions ih =>
    rw [List.foldl_cons]
    apply ih (mirrors_apply h hid a)
    rw [ids_apply]
    exact hid

end Desk

end Gradebook
