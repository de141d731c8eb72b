import Gradebook.Proofs.Ledger.Dispatch

/-!
# Identities of records

Every identity that a step draws goes to one record, so that the identities in ledgers are those
drawn, each once.  Where those are all different, a look-up by identity finds the record that has
it, and a change by identity changes that record alone.
-/

namespace Gradebook

/-! ### The first member with a key -/

theorem mem_updateFirst {α : Type} {p : α → Bool} {f : α → α} {l : List α} {x : α}
    (h : x ∈ updateFirst p f l) : x ∈ l ∨ ∃ y ∈ l, x = f y := by
  induction l with
  | nil => cases h
  | cons y l ih =>
    unfold updateFirst at h
    split at h
    next =>
      rcases List.mem_cons.1 h with rfl | hx
      · exact .inr ⟨y, List.mem_cons_self, rfl⟩
      · exact .inl (List.mem_cons_of_mem y hx)
    next =>
      rcases List.mem_cons.1 h with rfl | hx
      · exact .inl List.mem_cons_self
      · rcases ih hx with hx | ⟨z, hz, rfl⟩
        · exact .inl (List.mem_cons_of_mem y hx)
        · exact .inr ⟨z, List.mem_cons_of_mem y hz, rfl⟩

/-- A change to the first member with a key changes the only one with it, where keys are unique. -/
theorem updateFirst_eq_map {α κ : Type} [DecidableEq κ] {key : α → κ} {l : List α}
    (h : (l.map key).Nodup) (k : κ) (f : α → α) :
    updateFirst (fun x => key x = k) f l = l.map fun x => if key x = k then f x else x := by
  induction l with
  | nil => rfl
  | cons y l ih =>
    obtain ⟨hfresh, hrest⟩ := List.nodup_cons.1 h
    unfold updateFirst
    rw [List.map_cons]
    by_cases hy : key y = k
    · have hothers : ∀ x ∈ l, (if key x = k then f x else x) = x := by
        intro x hx
        apply if_neg
        rintro rfl
        exact hfresh (hy ▸ List.mem_map_of_mem hx)
      rw [if_pos (decide_eq_true hy), if_pos hy, List.map_congr_left hothers, List.map_id']
    · rw [if_neg (ne_true_of_eq_false (decide_eq_false hy)), if_neg hy, ih hrest]

theorem find?_key {α κ : Type} [DecidableEq κ] {key : α → κ} {l : List α}
    (h : (l.map key).Nodup) {x : α} (hx : x ∈ l) : l.find? (fun y => key y = key x) = some x := by
  induction l with
  | nil => cases hx
  | cons y l ih =>
    obtain ⟨hfresh, hrest⟩ := List.nodup_cons.1 h
    rcases List.mem_cons.1 hx with rfl | hmem
    · exact List.find?_cons_of_pos (decide_eq_true rfl)
    · have hne : key y ≠ key x := fun he => hfresh (he ▸ List.mem_map_of_mem hmem)
      have hskip : ¬ decide (key y = key x) = true := fun he => hne (of_decide_eq_true he)
      rw [List.find?_cons_of_neg (p := fun z => decide (key z = key x)) hskip]
      exact ih hrest hmem

theorem findIdx?_key {α κ : Type} [DecidableEq κ] {key : α → κ} {l : List α}
    (h : (l.map key).Nodup) {place : Nat} {x : α} (hx : l[place]? = some x) :
    l.findIdx? (fun y => key y = key x) = some place := by
  induction l generalizing place with
  | nil => cases hx
  | cons y l ih =>
    obtain ⟨hfresh, hrest⟩ := List.nodup_cons.1 h
    rw [List.findIdx?_cons]
    cases place with
    | zero =>
      cases hx
      exact if_pos (decide_eq_true rfl)
    | succ place =>
      have hmem : x ∈ l := List.mem_of_getElem? hx
      have hne : key y ≠ key x := fun he => hfresh (he ▸ List.mem_map_of_mem hmem)
      rw [if_neg (ne_true_of_eq_false (decide_eq_false hne)), ih hrest hx]
      rfl

/-! ### The identities in ledgers -/

def Student.homeworkIds (s : Student) : List RecordId :=
  s.homework.map (·.id)

def Roster.homeworkIds (r : Roster) : List RecordId :=
  r.flatMap Student.homeworkIds

/-- The identities of all students, grades, homework items and rewards. -/
def Ledgers.recordIds (l : Ledgers) : List RecordId :=
  Roster.ids l.roster ++ l.grades.map (·.id) ++ Roster.homeworkIds l.roster ++ l.rewards.map (·.id)

theorem Roster.homeworkIds_update {r : Roster} (id : StudentId) {change : Student → Student}
    (h : ∀ s, (change s).homeworkIds = s.homeworkIds) :
    homeworkIds (r.update id change) = homeworkIds r := by
  unfold homeworkIds
  rw [List.flatMap_def, List.flatMap_def]
  exact congrArg List.flatten (map_updateFirst _ h r)

/-- An item of homework goes to one student. -/
theorem Roster.homeworkIds_appendHomework {r : Roster} {id : StudentId} (h : id ∈ ids r)
    (item : Homework) :
    (homeworkIds (r.appendHomework id item)).Perm (homeworkIds r ++ [item.id]) := by
  obtain ⟨s, hs⟩ := Option.isSome_iff_exists.1 ((has_iff r id).2 h)
  obtain ⟨before, after, hr, -, -, hnext⟩ := replaces_appendHomework hs item
  rw [hnext, hr]
  simp only [homeworkIds, Student.homeworkIds, List.flatMap_append, List.flatMap_cons,
    List.map_append, List.map_cons, List.map_nil, List.append_assoc]
  exact (List.perm_append_comm.append_left _).append_left _

theorem Ledgers.count_recordIds (l : Ledgers) (id : RecordId) :
    l.recordIds.count id =
      (Roster.ids l.roster).count id + (l.grades.map (·.id)).count id +
        (Roster.homeworkIds l.roster).count id + (l.rewards.map (·.id)).count id := by
  simp only [recordIds, List.count_append]

/-- Ledgers whose identities are the given names, each once; those in a student's log are in the log
of all students, in the same order. -/
structure Ledgers.Named (l : Ledgers) (names : List String) : Prop where
  records : l.recordIds.Perm names
  logs : ∀ s ∈ l.roster, (s.logs.map (·.id)).Sublist (l.grades.map (·.id))

namespace Ledgers.Named

variable {l : Ledgers} {names : List String}

theorem empty : Ledgers.empty.Named [] where
  records := .refl []
  logs := by
    intro s hs
    cases hs

theorem add (h : l.Named names) (id : StudentId) (name : String) :
    Named { l with roster := l.roster.add (.new id name) } (names ++ [id]) where
  records := by
    have hids : Roster.ids (l.roster.add (.new id name)) = Roster.ids l.roster ++ [id] :=
      Roster.ids_add l.roster _
    have hhomework : Roster.homeworkIds (l.roster.add (.new id name)) =
        Roster.homeworkIds l.roster := by
      rw [Roster.homeworkIds, Roster.add, List.flatMap_append]
      exact List.append_nil _
    apply List.perm_iff_count.2
    intro x
    have hcount := h.records.count_eq x
    rw [count_recordIds] at hcount ⊢
    simp only [hids, hhomework, List.count_append]
    omega
  logs := by
    intro s hs
    rcases List.mem_append.1 hs with hs | hs
    · exact h.logs s hs
    · rw [List.mem_singleton.1 hs]
      exact List.nil_sublist _

theorem update (h : l.Named names) (id : StudentId) {change : Student → Student}
    (hchange : ∀ s, (change s).id = s.id ∧ (change s).logs = s.logs ∧
      (change s).homeworkIds = s.homeworkIds) :
    Named { l with roster := l.roster.update id change } names where
  records := by
    have hids := Roster.ids_update l.roster id fun s => (hchange s).1
    have hhomework := Roster.homeworkIds_update (r := l.roster) id fun s => (hchange s).2.2
    refine List.Perm.trans ?_ h.records
    unfold recordIds
    rw [hids, hhomework]
  logs := by
    intro s hs
    rcases mem_updateFirst hs with hs | ⟨t, ht, rfl⟩
    · exact h.logs s hs
    · rw [(hchange t).2.1]
      exact h.logs t ht

theorem grade (h : l.Named names) (id : StudentId) (e : LogEntry) :
    Named ⟨l.roster.appendLog id e, l.grades ++ [e], l.rewards⟩ (names ++ [e.id]) where
  records := by
    have hids : Roster.ids (l.roster.appendLog id e) = Roster.ids l.roster :=
      Roster.ids_update _ _ fun s => rfl
    have hhomework : Roster.homeworkIds (l.roster.appendLog id e) = Roster.homeworkIds l.roster :=
      Roster.homeworkIds_update _ fun s => rfl
    apply List.perm_iff_count.2
    intro x
    have hcount := h.records.count_eq x
    rw [count_recordIds] at hcount ⊢
    simp only [hids, hhomework, List.map_append, List.count_append, List.map_cons, List.map_nil]
    omega
  logs := by
    intro s hs
    have hgrow : (l.grades.map (·.id)).Sublist ((l.grades ++ [e]).map (·.id)) :=
      (List.sublist_append_left _ _).map _
    rcases mem_updateFirst hs with hs | ⟨t, ht, rfl⟩
    · exact (h.logs s hs).trans hgrow
    · -- the entry comes last in both logs
      simp only [List.map_append]
      exact (h.logs t ht).append (List.Sublist.refl _)

theorem assign (h : l.Named names) {id : StudentId} (hid : id ∈ Roster.ids l.roster)
    (item : Homework) :
    Named { l with roster := l.roster.appendHomework id item } (names ++ [item.id]) where
  records := by
    have hids : Roster.ids (l.roster.appendHomework id item) = Roster.ids l.roster :=
      Roster.ids_update _ _ fun s => rfl
    apply List.perm_iff_count.2
    intro x
    have hcount := h.records.count_eq x
    have hhomework := (Roster.homeworkIds_appendHomework hid item).count_eq x
    rw [count_recordIds] at hcount ⊢
    simp only [hids, hhomework, List.count_append]
    omega
  logs := by
    intro s hs
    rcases mem_updateFirst hs with hs | ⟨t, ht, rfl⟩
    · exact h.logs s hs
    · exact h.logs t ht

theorem reward (h : l.Named names) (e : RewardEntry) :
    Named { l with rewards := l.rewards ++ [e] } (names ++ [e.id]) where
  records := by
    refine List.Perm.trans ?_ (h.records.append_right [e.id])
    unfold recordIds
    rw [List.map_append, ← List.append_assoc]
    rfl
  logs := h.logs

end Ledgers.Named

namespace Desk

variable {κ : Type} [IdClock κ]

theorem named_apply {d : Desk κ} {names : List String} (h : d.ledgers.Named names) {id : StudentId}
    (hid : id ∈ Roster.ids d.ledgers.roster) (a : Action) :
    (d.apply id a).ledgers.Named (names ++ IdClock.ids d.clock a.draws) := by
  cases a with
  | recordGrade unit question status => exact h.grade id (d.recordGrade id unit question status).1
  | assignHomework unit range => exact h.assign hid ⟨_, unit, range, _, false⟩
  | adjustStamps delta =>
    rw [Action.draws, IdClock.ids, List.append_nil]
    exact h.update id fun s => ⟨rfl, rfl, rfl⟩
  | recordReward kind value => exact h.reward ⟨_, id, kind, value, some kind.name, _⟩

theorem named_foldl_apply {id : StudentId} (actions : List Action) {d : Desk κ}
    {names : List String} (h : d.ledgers.Named names) (hid : id ∈ Roster.ids d.ledgers.roster) :
    (actions.foldl (·.apply id) d).ledgers.Named
      (names ++ IdClock.ids d.clock (actions.flatMap Action.draws)) := by
  induction actions generalizing d names with
  | nil =>
    rw [List.flatMap_nil, IdClock.ids, List.append_nil]
    exact h
  | cons a actions ih =>
    have hids : id ∈ Roster.ids (d.apply id a).ledgers.roster := by
      rw [ids_apply]
      exact hid
    have hrest := ih (named_apply h hid a) hids
    rw [clock_apply, List.append_assoc, ← IdClock.ids_append] at hrest
    exact hrest

end Desk

/-! ### Records told apart -/

/-- Ledgers whose records can be told apart by their identities: look-ups find the one record that
has an identity, and changes change it alone. -/
structure Ledgers.Identified (l : Ledgers) : Prop where
  distinct : l.recordIds.Nodup
  logs : ∀ s ∈ l.roster, (s.logs.map (·.id)).Nodup
  found : ∀ s ∈ l.roster, l.roster.get? s.id = some s
  changed : ∀ id change, l.roster.update id change =
    l.roster.map fun s => if s.id = id then change s else s
  foundHomework : ∀ s ∈ l.roster, ∀ h ∈ s.homework, s.homework.find? (·.id = h.id) = some h
  changedHomework : ∀ s ∈ l.roster, ∀ (id : RecordId) (change : Homework → Homework),
    updateFirst (·.id = id) change s.homework =
      s.homework.map fun h => if h.id = id then change h else h

theorem Ledgers.gradeIds_sublist (l : Ledgers) :
    (l.grades.map (·.id)).Sublist l.recordIds := by
  unfold recordIds
  rw [List.append_assoc, List.append_assoc]
  exact (List.sublist_append_left _ _).trans (List.sublist_append_right _ _)

theorem Ledgers.homeworkIds_sublist (l : Ledgers) :
    (Roster.homeworkIds l.roster).Sublist l.recordIds := by
  unfold recordIds
  exact (List.sublist_append_right _ _).trans (List.sublist_append_left _ _)

theorem Ledgers.ids_sublist (l : Ledgers) : (Roster.ids l.roster).Sublist l.recordIds := by
  unfold recordIds
  rw [List.append_assoc, List.append_assoc]
  exact List.sublist_append_left _ _

theorem Ledgers.Named.nodup_homeworkIds {l : Ledgers} {names : List String} (h : l.Named names)
    (hnames : names.Nodup) {s : Student} (hs : s ∈ l.roster) : s.homeworkIds.Nodup := by
  have hdistinct : l.recordIds.Nodup := h.records.nodup_iff.2 hnames
  have hmem : s.homeworkIds ∈ l.roster.map Student.homeworkIds := List.mem_map_of_mem hs
  exact ((List.sublist_flatten_of_mem hmem).trans l.homeworkIds_sublist).nodup hdistinct

theorem Ledgers.identified {l : Ledgers} {names : List String} (h : l.Named names)
    (hnames : names.Nodup) : l.Identified := by
  have hdistinct : l.recordIds.Nodup := h.records.nodup_iff.2 hnames
  have hids : (Roster.ids l.roster).Nodup := l.ids_sublist.nodup hdistinct
  refine ⟨hdistinct, ?_, ?_, ?_, ?_, ?_⟩
  · intro s hs
    exact ((h.logs s hs).trans l.gradeIds_sublist).nodup hdistinct
  · intro s hs
    exact find?_key hids hs
  · intro id change
    exact updateFirst_eq_map hids id change
  · intro s hs item hitem
    exact find?_key (h.nodup_homeworkIds hnames hs) hitem
  · intro s hs id change
    exact updateFirst_eq_map (h.nodup_homeworkIds hnames hs) id change

end Gradebook
