import Gradebook.Proofs.Workbook.Change

/-!
# History

The logs only grow at their end, and so do the roster, the log of each student and the homework of
each student.  What stands in a place stays there; of an item of homework nothing changes but that
it is completed, once it is named in a call.  No identities need to be unique for this.
-/

namespace Gradebook

/-- Every member of a list has a member related to it in the same place of another. -/
def ContinuedBy {α : Type} (R : α → α → Prop) (old new : List α) : Prop :=
  ∀ (i : Nat) (a : α), old[i]? = some a → ∃ b, new[i]? = some b ∧ R a b

namespace ContinuedBy

variable {α : Type} {R : α → α → Prop}

theorem refl (hR : ∀ a, R a a) (l : List α) : ContinuedBy R l l :=
  fun _ a ha => ⟨a, ha, hR a⟩

theorem trans (hR : ∀ a b c, R a b → R b c → R a c) {l m n : List α} (h : ContinuedBy R l m)
    (h' : ContinuedBy R m n) : ContinuedBy R l n := by
  intro i a ha
  obtain ⟨b, hb, hab⟩ := h i a ha
  obtain ⟨c, hc, hbc⟩ := h' i b hb
  exact ⟨c, hc, hR a b c hab hbc⟩

theorem mono {S : α → α → Prop} (hRS : ∀ a b, R a b → S a b) {l m : List α}
    (h : ContinuedBy R l m) : ContinuedBy S l m := by
  intro i a ha
  obtain ⟨b, hb, hab⟩ := h i a ha
  exact ⟨b, hb, hRS a b hab⟩

theorem append (hR : ∀ a, R a a) (l more : List α) : ContinuedBy R l (l ++ more) := by
  intro i a ha
  have hi : i < l.length := (List.getElem?_eq_some_iff.1 ha).1
  exact ⟨a, by rw [List.getElem?_append_left hi, ha], hR a⟩

/-- A change to the first member that satisfies a condition continues the list if it continues that
member. -/
theorem of_updateFirst (hR : ∀ a, R a a) {p : α → Bool} {f : α → α}
    (hf : ∀ a, p a = true → R a (f a)) (l : List α) : ContinuedBy R l (updateFirst p f l) := by
  induction l with
  | nil => exact refl hR []
  | cons x l ih =>
    unfold updateFirst
    split
    next hx =>
      intro i a ha
      cases i with
      | zero =>
        cases ha
        exact ⟨f x, rfl, hf x hx⟩
      | succ i => exact ⟨a, ha, hR a⟩
    next hx =>
      intro i a ha
      cases i with
      | zero =>
        cases ha
        exact ⟨x, rfl, hR x⟩
      | succ i => exact ih i a ha

theorem map_prefix {β : Type} {g : α → β} (hg : ∀ a b, R a b → g b = g a) {l m : List α}
    (h : ContinuedBy R l m) : l.map g <+: m.map g := by
  rw [List.prefix_iff_getElem?]
  intro i hi
  have hi' : i < l.length := by rwa [List.length_map] at hi
  obtain ⟨b, hb, hab⟩ := h i l[i] (List.getElem?_eq_getElem hi')
  rw [List.getElem?_map, hb, List.getElem_map, Option.map_some, hg _ b hab]

end ContinuedBy

/-- What an item of homework was assigned as. -/
def Homework.assignment (h : Homework) : RecordId × String × String × Time.Instant :=
  (h.id, h.unit, h.range, h.assignedAt)

/-- An item of homework later on.  It stays completed, and if it has become so then it was `called`
for. -/
structure Homework.Continues (called : Prop) (h later : Homework) : Prop where
  assignment : later.assignment = h.assignment
  kept : h.completed = true → later.completed = true
  called : h.completed = false → later.completed = true → called

/-- A student later on, where `calls` are the calls that completed homework. -/
structure Student.Continues (calls : StudentId → RecordId → Prop) (s later : Student) : Prop where
  name : (later.id, later.name) = (s.id, s.name)
  logs : s.logs <+: later.logs
  homework : ContinuedBy (fun h h' => h.Continues (calls s.id h.id) h') s.homework later.homework

/-- Ledgers later on, where `calls` are the calls that completed homework. -/
structure Ledgers.Continues (calls : StudentId → RecordId → Prop) (l later : Ledgers) : Prop where
  grades : l.grades <+: later.grades
  rewards : l.rewards <+: later.rewards
  roster : ContinuedBy (Student.Continues calls) l.roster later.roster

theorem Homework.Continues.refl (called : Prop) (h : Homework) : h.Continues called h where
  assignment := rfl
  kept hdone := hdone
  called hopen hdone := absurd (hopen.symm.trans hdone) Bool.false_ne_true

theorem Homework.Continues.trans {called : Prop} {h h' h'' : Homework}
    (first : h.Continues called h') (second : h'.Continues called h'') : h.Continues called h'' where
  assignment := second.assignment.trans first.assignment
  kept := second.kept ∘ first.kept
  called := by
    intro hopen hdone
    -- the item was completed in the first part or in the second
    cases hmiddle : h'.completed with
    | true => exact first.called hopen hmiddle
    | false => exact second.called hmiddle hdone

namespace Student.Continues

variable {calls : StudentId → RecordId → Prop}

theorem refl (s : Student) : s.Continues calls s where
  name := rfl
  logs := List.prefix_refl _
  homework := .refl (fun h => .refl _ h) s.homework

theorem trans {s t u : Student} (h : s.Continues calls t) (h' : t.Continues calls u) :
    s.Continues calls u where
  name := h'.name.trans h.name
  logs := h.logs.trans h'.logs
  homework := by
    have hid : t.id = s.id := congrArg Prod.fst h.name
    intro i a ha
    obtain ⟨b, hb, hab⟩ := h.homework i a ha
    obtain ⟨c, hc, hbc⟩ := h'.homework i b hb
    have hitem : b.id = a.id := congrArg Prod.fst hab.assignment
    rw [hid, hitem] at hbc
    exact ⟨c, hc, hab.trans hbc⟩

end Student.Continues

namespace Ledgers.Continues

variable {calls : StudentId → RecordId → Prop}

theorem refl (l : Ledgers) : l.Continues calls l where
  grades := List.prefix_refl _
  rewards := List.prefix_refl _
  roster := .refl .refl l.roster

theorem trans {l m n : Ledgers} (h : l.Continues calls m) (h' : m.Continues calls n) :
    l.Continues calls n where
  grades := h.grades.trans h'.grades
  rewards := h.rewards.trans h'.rewards
  roster := h.roster.trans (fun _ _ _ => .trans) h'.roster

theorem mono {more : StudentId → RecordId → Prop} (hmore : ∀ id homework, calls id homework →
    more id homework) {l m : Ledgers} (h : l.Continues calls m) : l.Continues more m where
  grades := h.grades
  rewards := h.rewards
  roster := by
    apply h.roster.mono
    intro s t hst
    refine ⟨hst.name, hst.logs, hst.homework.mono ?_⟩
    intro a b hab
    exact ⟨hab.assignment, hab.kept, fun hopen hdone => hmore _ _ (hab.called hopen hdone)⟩

theorem update (l : Ledgers) {id : StudentId} {change : Student → Student}
    (hchange : ∀ s : Student, s.id = id → s.Continues calls (change s)) :
    l.Continues calls { l with roster := l.roster.update id change } where
  grades := List.prefix_refl _
  rewards := List.prefix_refl _
  roster := .of_updateFirst .refl (fun s hs => hchange s (of_decide_eq_true hs)) l.roster

end Ledgers.Continues

namespace Desk

variable {κ : Type} [IdClock κ]

theorem continues_apply (calls : StudentId → RecordId → Prop) (d : Desk κ) (id : StudentId)
    (a : Action) : d.ledgers.Continues calls (d.apply id a).ledgers := by
  cases a with
  | recordGrade unit question status =>
    have hroster : d.ledgers.Continues calls { d.ledgers with
        roster := d.ledgers.roster.appendLog id (d.recordGrade id unit question status).1 } :=
      .update d.ledgers fun s _ =>
        ⟨rfl, List.prefix_append _ _, .refl (fun h => .refl _ h) s.homework⟩
    exact ⟨List.prefix_append _ _, List.prefix_refl _, hroster.roster⟩
  | assignHomework unit range =>
    exact .update d.ledgers fun s _ =>
      ⟨rfl, List.prefix_refl _, .append (fun h => .refl _ h) s.homework _⟩
  | adjustStamps delta =>
    exact .update d.ledgers fun s _ =>
      ⟨rfl, List.prefix_refl _, .refl (fun h => .refl _ h) s.homework⟩
  | recordReward kind value =>
    exact ⟨List.prefix_refl _, List.prefix_append _ _, .refl .refl d.ledgers.roster⟩

theorem continues_foldl_apply (calls : StudentId → RecordId → Prop) (id : StudentId)
    (actions : List Action) (d : Desk κ) :
    d.ledgers.Continues calls (actions.foldl (·.apply id) d).ledgers := by
  induction actions generalizing d with
  | nil => exact .refl d.ledgers
  | cons a actions ih =>
    rw [List.foldl_cons]
    exact (d.continues_apply calls id a).trans (ih (d.apply id a))

/-- An operation continues the ledgers, with no call to complete homework but itself. -/
theorem Change.continues {d next : Desk κ} {current : Option StudentId} {o : Operation}
    {draws : List Draw} (h : d.Change current o draws next) :
    d.ledgers.Continues (fun id homework => o = .completeHomework id homework) next.ledgers := by
  cases h with
  | nothing o t => exact .refl d.ledgers
  | added hname =>
    exact ⟨List.prefix_refl _, List.prefix_refl _, .append .refl d.ledgers.roster _⟩
  | carriedOut hcurrent hid hparse => exact d.continues_foldl_apply _ _ _
  | completed hid hhomework =>
    refine .update d.ledgers fun s hs => ⟨rfl, List.prefix_refl _, ?_⟩
    refine .of_updateFirst (fun h => .refl _ h) ?_ s.homework
    intro item hitem
    have hcalled := of_decide_eq_true hitem
    rw [item.complete_eq]
    exact ⟨rfl, fun _ => rfl, fun _ _ => by rw [hs, hcalled]⟩
  | reset hid =>
    exact .update d.ledgers fun s _ =>
      ⟨rfl, List.prefix_refl _, .refl (fun h => .refl _ h) s.homework⟩

end Desk

namespace Workbook

variable {σ κ : Type} [CollectionStore σ] [IdClock κ]

theorem continues_after (w : Workbook σ κ) (ops : List Operation) :
    w.desk.ledgers.Continues (fun id homework => .completeHomework id homework ∈ ops)
      (w.after ops).desk.ledgers := by
  induction ops generalizing w with
  | nil => exact .refl w.desk.ledgers
  | cons o ops ih =>
    have hfirst := (w.desk.effect_change w.current o).continues
    rw [← w.ledgers_perform] at hfirst
    rw [after_cons]
    refine (hfirst.mono ?_).trans ((ih (w.perform o).2).mono ?_)
    · rintro id homework rfl
      exact List.mem_cons_self
    · intro id homework hcall
      exact List.mem_cons_of_mem o hcall

end Workbook

/-- From every state and through every run the logs only grow at their end, students stay in their
places under their identities and names, and so do their records.  Homework stays completed, and
what has become so was named in a call with its student; as a run may be one operation, it is that
call that completes it. -/
theorem history_only_grows {σ κ : Type} [CollectionStore σ] [IdClock κ] (w : Workbook σ κ)
    (ops : List Operation) :
    w.ledgers.grades <+: (w.after ops).ledgers.grades ∧
      w.ledgers.rewards <+: (w.after ops).ledgers.rewards ∧
      w.roster.map (fun s => (s.id, s.name)) <+:
        (w.after ops).roster.map (fun s => (s.id, s.name)) ∧
      ∀ (i : Nat) (s : Student), w.roster[i]? = some s → ∃ t, (w.after ops).roster[i]? = some t ∧
        s.logs <+: t.logs ∧
        s.homework.map Homework.assignment <+: t.homework.map Homework.assignment ∧
        ∀ (j : Nat) (h : Homework), s.homework[j]? = some h → ∃ h', t.homework[j]? = some h' ∧
          (h.completed = true → h'.completed = true) ∧
          (h.completed = false → h'.completed = true →
            Operation.completeHomework s.id h.id ∈ ops) := by
  have hrun := w.continues_after ops
  refine ⟨hrun.grades, hrun.rewards, hrun.roster.map_prefix fun _ _ h => h.name, ?_⟩
  intro i s hs
  obtain ⟨t, ht, hst⟩ := hrun.roster i s hs
  refine ⟨t, ht, hst.logs, hst.homework.map_prefix fun _ _ h => h.assignment, ?_⟩
  intro j h hh
  obtain ⟨h', hh', hcontinues⟩ := hst.homework j h hh
  exact ⟨h', hh', hcontinues.kept, hcontinues.called⟩

end Gradebook
