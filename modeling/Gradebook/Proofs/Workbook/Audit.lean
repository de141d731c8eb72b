import Gradebook.Proofs.Ledger.Audit
import Gradebook.Proofs.Workbook.Alone

/-!
# Every state passes the audit

Over an empty store every operation keeps every portrait audited: one that deals with a student
does so by the audit of its dealing, and the portraits of the other students stay as they are.
-/

namespace Gradebook

theorem Portrait.Deals.audited {p next : Portrait} {q : Dealing} {reply : Reply}
    (h : p.Deals q reply next) (hp : p.Audited) : next.Audited := by
  cases h with
  | added hname hnew => exact hp.add hnew _
  | selected hs => exact hp
  | rejected hs hparse => exact hp
  | carriedOut hs hparse => exact hp.carryOut hs _
  | completed hs hplace => exact hp.complete _
  | reset hs => exact hp.reset

namespace Workbook

variable {σ κ : Type} [CollectionStore σ] [IdClock κ]

/-- Every portrait is audited, and nobody is selected who is not on the roster. -/
structure Audited (w : Workbook σ κ) : Prop where
  portraits : ∀ id, (w.desk.ledgers.portrait id).Audited
  selects : w.SelectsStudent

theorem Audited.perform {w : Workbook σ κ} (h : w.Audited) (o : Operation) :
    (w.perform o).2.Audited := by
  refine ⟨fun id => ?_, h.selects.perform o⟩
  rw [ledgers_perform]
  by_cases hdealing : ∃ q, w.desk.IsDealing w.current id o q
  · obtain ⟨q, hq⟩ := hdealing
    exact (hq.deals (h.selects id)).audited (h.portraits id)
  · have hnone : ∀ q, ¬ w.desk.IsDealing w.current id o q := fun q hq => hdealing ⟨q, hq⟩
    rw [(w.desk.effect_change w.current o).portrait hnone]
    exact h.portraits id

omit [CollectionStore σ] [IdClock κ] in
theorem audited_empty (clock : κ) (tally : Tally) (store : σ) :
    Audited ⟨⟨.empty, clock, tally⟩, store, none⟩ where
  portraits _ := ⟨fun _ => rfl, nofun, nofun⟩
  selects _ := nofun

end Workbook

/-- A student who is found by identity and whose portrait is audited is accounted for. -/
theorem Ledgers.accountsFor_of_audited {l : Ledgers} {s : Student}
    (h : (l.portrait s.id).Audited) (hs : l.roster.get? s.id = some s) : l.AccountsFor s := by
  have hstudent := student_portrait_of_get? hs
  constructor
  · rw [← rewardValues_portrait]
    exact h.stamps hstudent
  · rw [← rewardValues_portrait, ← Student.rangesIn_sketch]
    exact h.penalties hstudent

/-- Over an empty store, in every state that a run without repeated identities reaches, no student
holds more stamps than were awarded, and the penalties of every student have their homework, in
order. -/
theorem every_student_is_accounted_for {σ κ : Type} [CollectionStore σ] [IdClock κ] {store : σ}
    (hstore : ∀ c, CollectionStore.load store c = .ok []) (clock : κ) (tally : Tally) :
    ∃ w, Workbook.open store clock tally = .ok w ∧
      ∀ ops, w.DrawsEachOnce ops →
        ∀ s ∈ (w.after ops).roster, (w.after ops).ledgers.AccountsFor s := by
  obtain ⟨counted, hopen⟩ := Workbook.open_empty hstore clock tally
  refine ⟨_, hopen, ?_⟩
  intro ops hdraws s hs
  have haudited : (Workbook.after ⟨⟨.empty, clock, counted⟩, store, none⟩ ops).Audited := by
    refine Workbook.after_induction ?_ ops (Workbook.audited_empty clock counted store)
    intro w o h
    exact h.perform o
  have hnamed := Workbook.named_after ops (w := ⟨⟨.empty, clock, counted⟩, store, none⟩) .empty
  exact Ledgers.accountsFor_of_audited (haudited.portraits s.id)
    ((Ledgers.identified hnamed hdraws).found s hs)

theorem penalized_student_is_accounted_for :
    let w : Workbook MemoryStore SequentialClock := ⟨⟨.empty, .new .epoch 0, .empty⟩, .empty, none⟩
    let ops : List Operation :=
      [.addStudent "Kim", .select "student-1", .runCommand "!stamp +5", .runCommand "!stamp -9",
        .runCommand "!homework penalty 3 sheets", .runCommand "!penalty 3",
        .completeHomework "student-1" "homework-3", .runCommand "!stamp +7"]
    w.DrawsEachOnce ops ∧
      (w.after ops).roster.map (·.rangesIn "penalty") = [["3 sheets", "3 sheets"]] ∧
      ∃ s, (w.after ops).roster.get? "student-1" = some s ∧
        (w.after ops).ledgers.AccountsFor s := by
  intro w ops
  have hempty : ∀ c, CollectionStore.load MemoryStore.empty c = .ok [] := fun c => rfl
  have hops : w.DrawsEachOnce ops := by decide
  obtain ⟨v, hv, haccounts⟩ := every_student_is_accounted_for hempty
    (SequentialClock.new .epoch 0) .empty
  cases hv
  have hthere : (w.after ops).roster.has "student-1" = true := by decide
  obtain ⟨s, hs⟩ := Option.isSome_iff_exists.1 hthere
  exact ⟨hops, by decide, s, hs, haccounts ops hops s (Roster.get?_some hs).1⟩

end Gradebook
