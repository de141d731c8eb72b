import Gradebook.Proofs.Ledger.Portrait

/-!
# Balances of stamps

A change moves a balance to the exact sum, held at the ends of the range of counts.  A change by a
word of 64 bits does so unless that sum leaves the words: then the program panics, which only a sum
past the upper end of the words makes it do.  The changes that commands make stay far from it.
-/

namespace Gradebook

theorem Count.val_adjust (n : Count) (delta : Int) :
    ((n.adjust delta).val : Int) = max 0 (min (n.val + delta) maxCount) := by
  simp only [adjust, val_clamp]
  omega

/-- The changes that commands make are counts or their opposites. -/
theorem Command.adjustments {c : Command} {delta : Int} (h : .adjustStamps delta ∈ c.actions) :
    (∃ n, c = .addStamps n ∧ delta = n.val) ∨ ∃ n, c = .removeStamps n ∧ delta = -n.val := by
  cases c with
  | addStamps n =>
    simp only [actions, List.mem_cons, Action.adjustStamps.injEq, reduceCtorEq, List.not_mem_nil,
      or_false] at h
    exact .inl ⟨n, rfl, h⟩
  | removeStamps n =>
    cases List.mem_singleton.1 h
    exact .inr ⟨n, rfl, rfl⟩
  | recordGrade | assignHomework | penalty | ignored => simp [actions] at h

theorem fitsWord_iff (n : Int) :
    fitsWord n = true ↔ -9223372036854775808 ≤ n ∧ n ≤ 9223372036854775807 := by
  simp only [fitsWord, Bool.and_eq_true, decide_eq_true_eq]

/-- A count is never negative, so no sum with a word falls below the words. -/
theorem Count.adjustByWord_eq (n : Count) {delta : Int} (hdelta : fitsWord delta = true) :
    n.adjustByWord delta =
      if n.val + delta ≤ 9223372036854775807 then .ok (n.adjust delta)
      else .error .addOverflow := by
  have hlow := ((fitsWord_iff delta).1 hdelta).1
  have hfits : fitsWord (n.val + delta) = true ↔ (n.val : Int) + delta ≤ 9223372036854775807 := by
    rw [fitsWord_iff]
    omega
  unfold adjustByWord addWords
  simp only [hfits]
  split
  · rfl
  · rfl

namespace Roster

theorem adjustStampsByWord_missing {r : Roster} {id : StudentId} (h : r.get? id = none)
    (delta : Int) : r.adjustStampsByWord id delta = .ok (r.adjustStamps id delta) := by
  unfold adjustStampsByWord adjustStamps
  rw [h, update_missing h]

theorem adjustStampsByWord_found {r : Roster} {id : StudentId} {s : Student}
    (hs : r.get? id = some s) {delta : Int} (hdelta : fitsWord delta = true) :
    r.adjustStampsByWord id delta =
      if s.stamps.val + delta ≤ 9223372036854775807 then .ok (r.adjustStamps id delta)
      else .error .addOverflow := by
  have hupdate : r.update id (fun t => { t with stamps := s.stamps.adjust delta }) =
      r.adjustStamps id delta := update_congr hs rfl
  unfold adjustStampsByWord
  rw [hs]
  simp only [s.stamps.adjustByWord_eq hdelta]
  split
  · exact congrArg Except.ok hupdate
  · rfl

theorem adjustStampsByWord_ok {r next : Roster} {id : StudentId} {delta : Int}
    (hdelta : fitsWord delta = true) (h : r.adjustStampsByWord id delta = .ok next) :
    next = r.adjustStamps id delta := by
  cases hs : r.get? id with
  | none =>
    rw [adjustStampsByWord_missing hs] at h
    exact (Except.ok.inj h).symm
  | some s =>
    rw [adjustStampsByWord_found hs hdelta] at h
    split at h
    · exact (Except.ok.inj h).symm
    · cases h

theorem get?_adjustStamps {r : Roster} {id : StudentId} {s : Student} (hs : r.get? id = some s)
    (delta : Int) :
    (r.adjustStamps id delta).get? id = some { s with stamps := s.stamps.adjust delta } := by
  let change : Student → Student := fun s => { s with stamps := s.stamps.adjust delta }
  have hid : ∀ s, (change s).id = s.id := fun s => rfl
  have hget := get?_update r id id hid
  rw [if_pos rfl, hs] at hget
  exact hget

theorem adjustStampsByWord_of_mem_actions {c : Command} {delta : Int}
    (h : .adjustStamps delta ∈ c.actions) (r : Roster) (id : StudentId) :
    r.adjustStampsByWord id delta = .ok (r.adjustStamps id delta) := by
  have hmax : maxCount = 4294967295 := rfl
  have hsmall : -maxCount ≤ delta ∧ delta ≤ maxCount := by
    obtain ⟨n, rfl, rfl⟩ | ⟨n, rfl, rfl⟩ := Command.adjustments h
    · have hn := n.le_max
      omega
    · have hn := n.le_max
      omega
  cases hs : r.get? id with
  | none => exact adjustStampsByWord_missing hs delta
  | some s =>
    have hn := s.stamps.le_max
    have hdelta : fitsWord delta = true := by
      rw [fitsWord_iff]
      omega
    rw [adjustStampsByWord_found hs hdelta, if_pos (by omega)]

/-- The roster after the first student with an identity was given the exact sum, held at the ends of
the range of counts; where there is no such student it is as it was. -/
inductive Adjusts (r : Roster) (id : StudentId) (delta : Int) : Roster → Prop
  | missing (hid : id ∉ ids r) : r.Adjusts id delta r
  | changed {s : Student} {balance : Count} {next : Roster}
      (hbalance : (balance.val : Int) = max 0 (min (s.stamps.val + delta) maxCount))
      (hnext : r.Replaces id s { s with stamps := balance } next) : r.Adjusts id delta next

theorem adjusts_adjustStamps (r : Roster) (id : StudentId) (delta : Int) :
    r.Adjusts id delta (r.adjustStamps id delta) := by
  cases hs : r.get? id with
  | none =>
    unfold adjustStamps
    rw [update_missing hs]
    exact .missing ((get?_eq_none_iff r id).1 hs)
  | some s => exact .changed (s.stamps.val_adjust delta) (replaces_adjustStamps hs delta)

theorem adjustStampsByWord_overflows_iff (r : Roster) (id : StudentId) {delta : Int}
    (hdelta : fitsWord delta = true) :
    r.adjustStampsByWord id delta = .error .addOverflow ↔
      ∃ s, r.get? id = some s ∧ 9223372036854775807 < (s.stamps.val : Int) + delta := by
  cases hs : r.get? id with
  | none =>
    rw [adjustStampsByWord_missing hs]
    simp only [reduceCtorEq, false_and, exists_false]
  | some s =>
    rw [adjustStampsByWord_found hs hdelta]
    simp only [ite_eq_right_iff, reduceCtorEq, imp_false, Int.not_le, Option.some.injEq,
      exists_eq_left']

theorem adjustStampsByWord_of_le {r last : Roster} {id : StudentId} {delta further : Int}
    (hdelta : fitsWord delta = true) (hfurther : fitsWord further = true) (hle : delta ≤ further)
    (h : r.adjustStampsByWord id further = .ok last) :
    r.adjustStampsByWord id delta = .ok (r.adjustStamps id delta) := by
  cases hsum : r.adjustStampsByWord id delta with
  | ok next => rw [adjustStampsByWord_ok hdelta hsum]
  | error panic =>
    cases panic with
    | addOverflow =>
      obtain ⟨s, hs, hover⟩ := (adjustStampsByWord_overflows_iff r id hdelta).1 hsum
      have hpanic := (adjustStampsByWord_overflows_iff r id hfurther).2 ⟨s, hs, by omega⟩
      rw [h] at hpanic
      cases hpanic

end Roster

/-- A change by a word of 64 bits panics, on the overflow of the sum, exactly where the balance and
the change together pass the greatest word; otherwise it sets the balance of the first student with
the identity to the exact sum held at the ends of the range, and changes nothing else.  A greater
change never gives a smaller balance. -/
theorem stamps_are_adjusted_exactly (r : Roster) (id : StudentId) {delta : Int}
    (hdelta : fitsWord delta = true) :
    (r.adjustStampsByWord id delta = .error .addOverflow ↔
        ∃ s, r.get? id = some s ∧ 9223372036854775807 < (s.stamps.val : Int) + delta) ∧
      (∀ next, r.adjustStampsByWord id delta = .ok next → r.Adjusts id delta next) ∧
      ∀ further last, delta ≤ further → fitsWord further = true →
        r.adjustStampsByWord id further = .ok last →
          ∃ next, r.adjustStampsByWord id delta = .ok next ∧
            ∀ s t, next.get? id = some s → last.get? id = some t →
              s.stamps.val ≤ t.stamps.val := by
  refine ⟨r.adjustStampsByWord_overflows_iff id hdelta, ?_, ?_⟩
  · intro next hnext
    rw [Roster.adjustStampsByWord_ok hdelta hnext]
    exact r.adjusts_adjustStamps id delta
  · intro further last hle hfurther hlast
    refine ⟨_, Roster.adjustStampsByWord_of_le hdelta hfurther hle hlast, ?_⟩
    rw [Roster.adjustStampsByWord_ok hfurther hlast]
    intro s t hs ht
    cases hget : r.get? id with
    | none =>
      unfold Roster.adjustStamps at hs
      rw [Roster.update_missing hget, hget] at hs
      cases hs
    | some u =>
      rw [Roster.get?_adjustStamps hget] at hs ht
      cases hs
      cases ht
      exact u.stamps.adjust_mono hle

theorem stamps_are_adjusted_exactly_at_ends :
    let kim : Student := { Student.new "kim" "Kim" with stamps := ⟨5, by decide⟩ }
    let r : Roster := [.new "lee" "Lee", kim, { kim with name := "Kim the second" }]
    let least : Int := -9223372036854775808
    let greatest : Int := 9223372036854775802
    fitsWord least = true ∧ fitsWord greatest = true ∧
      (∃ next, r.adjustStampsByWord "kim" least = .ok next ∧ r.Adjusts "kim" least next ∧
        next.map (·.stamps.val) = [0, 0, 5]) ∧
      (∃ next, r.adjustStampsByWord "kim" greatest = .ok next ∧ r.Adjusts "kim" greatest next ∧
        next.map (·.stamps.val) = [0, 4294967295, 5]) ∧
      r.adjustStampsByWord "kim" (greatest + 1) = .error .addOverflow := by
  intro kim r least greatest
  have hleast : fitsWord least = true := by decide
  have hgreatest : fitsWord greatest = true := by decide
  have hpast : fitsWord (greatest + 1) = true := by decide
  refine ⟨hleast, hgreatest, ?_, ?_, ?_⟩
  · obtain ⟨-, hexact, -⟩ := stamps_are_adjusted_exactly r "kim" hleast
    exact ⟨_, rfl, hexact _ rfl, by decide⟩
  · obtain ⟨-, hexact, -⟩ := stamps_are_adjusted_exactly r "kim" hgreatest
    have hnext : r.adjustStampsByWord "kim" greatest = .ok (r.adjustStamps "kim" greatest) :=
      (Roster.adjustStampsByWord_found (s := kim) rfl hgreatest).trans (if_pos (by decide))
    exact ⟨_, hnext, hexact _ hnext, by decide +kernel⟩
  · obtain ⟨hoverflows, -⟩ := stamps_are_adjusted_exactly r "kim" hpast
    exact hoverflows.2 ⟨kim, rfl, by decide⟩

/-- One stamp and the greatest word are more than a word. -/
theorem greatest_change_overflows :
    let kim : Student := { Student.new "kim" "Kim" with stamps := ⟨1, by decide⟩ }
    fitsWord 9223372036854775807 = true ∧
      (Roster.adjustStampsByWord [kim] "kim" 9223372036854775807).mapError Panic.message =
        .error "attempt to add with overflow" ∧
      ¬ ∃ next, Roster.adjustStampsByWord [kim] "kim" 9223372036854775807 = .ok next ∧
        Roster.Adjusts [kim] "kim" 9223372036854775807 next := by
  intro kim
  have hword : fitsWord 9223372036854775807 = true := by decide
  have hpanic : Roster.adjustStampsByWord [kim] "kim" 9223372036854775807 = .error .addOverflow :=
    (Roster.adjustStampsByWord_overflows_iff [kim] "kim" hword).2 ⟨kim, rfl, by decide⟩
  refine ⟨hword, ?_, ?_⟩
  · rw [hpanic]
    rfl
  · rintro ⟨next, hnext, -⟩
    rw [hpanic] at hnext
    cases hnext

end Gradebook
