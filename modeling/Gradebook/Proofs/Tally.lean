import Gradebook.Proofs.Fault
import Gradebook.Tally
import Mathlib.Algebra.BigOperators.Group.List.Lemmas
import Mathlib.Algebra.GroupWithZero.Nat

/-!
# What the counters report

A counter is reported under the name of its family and its labels, which tell it from all others.
Each counter that was counted is reported once, with its total, and the totals of a family make up
the total of the family.
-/

namespace Gradebook

theorem CounterFamily.lookup_descriptions (f : CounterFamily) :
    descriptions.lookup f.name = some f.description := by
  cases f <;> decide

theorem Counter.eq_of_labels {c d : Counter} (hfamily : c.family = d.family)
    (hlabels : c.labels = d.labels) : c = d := by
  cases c with
  | applied kind =>
    cases d with
    | applied other => simpa [labels] using hlabels
    | rejected => simp [labels] at hlabels
    | fault | failedSave => cases hfamily
  | rejected =>
    cases d with
    | applied other => simp [labels] at hlabels
    | rejected => rfl
    | fault | failedSave => cases hfamily
  | fault code =>
    cases d with
    | fault other =>
      have hname : code.name = other.name := by
        simp only [labels, List.cons.injEq, Prod.mk.injEq, true_and, and_true] at hlabels
        exact hlabels.2
      rw [FaultCode.name_injective hname]
    | applied | rejected | failedSave => cases hfamily
  | failedSave collection =>
    cases d with
    | failedSave other => simpa [labels, Collection.name_inj] using hlabels
    | applied | rejected | fault => cases hfamily

namespace Tally

theorem labelled_eq_total (t : Tally) (c : Counter) :
    t.labelled c.family c.labels = t.total c := by
  have hsame (d : Counter) : (d.family = c.family && d.labels = c.labels) = (d == c) := by
    rw [Bool.eq_iff_iff, Bool.and_eq_true, decide_eq_true_iff, decide_eq_true_iff, beq_iff_eq]
    exact ⟨fun h => Counter.eq_of_labels h.1 h.2, fun h => ⟨congrArg _ h, congrArg _ h⟩⟩
  simp only [labelled, total, List.count, hsame]

theorem nodup_eraseDups {α : Type} [DecidableEq α] (xs : List α) : xs.eraseDups.Nodup := by
  cases xs with
  | nil => exact List.nodup_nil
  | cons x rest =>
    rw [List.eraseDups_cons, List.nodup_cons, List.mem_eraseDups]
    exact ⟨by simp, nodup_eraseDups _⟩
termination_by xs.length
decreasing_by exact Nat.lt_succ_of_le (List.length_filter_le _ _)

theorem nodup_totals (t : Tally) : (t.totals.map Prod.fst).Nodup := by
  have hevents : t.totals.map Prod.fst = t.events.eraseDups := by
    simp [totals, Function.comp_def]
  rw [hevents]
  exact nodup_eraseDups t.events

theorem mem_totals {t : Tally} {c : Counter} {n : Nat} :
    (c, n) ∈ t.totals ↔ n = t.total c ∧ 0 < n := by
  simp only [totals, List.mem_map, List.mem_eraseDups, Prod.mk.injEq]
  constructor
  · rintro ⟨d, hd, rfl, rfl⟩
    exact ⟨rfl, List.count_pos_iff.2 hd⟩
  · rintro ⟨rfl, hcounted⟩
    exact ⟨c, List.count_pos_iff.1 hcounted, rfl, rfl⟩

/-- The reported totals of a family make up its total. -/
theorem sum_totals (t : Tally) (f : CounterFamily) :
    ((t.totals.filter (·.1.family = f)).map Prod.snd).sum = t.familyTotal f := by
  have hperm : t.events.eraseDups.Perm t.events.dedup :=
    (List.perm_ext_iff_of_nodup (nodup_eraseDups _) (List.nodup_dedup _)).2 fun c => by
      rw [List.mem_eraseDups, List.mem_dedup]
  have hreported : (t.totals.filter (·.1.family = f)).map Prod.snd =
      (t.events.eraseDups.filter (·.family = f)).map t.total := by
    simp only [totals, List.filter_map, List.map_map, Function.comp_def]
  rw [hreported, ((hperm.filter _).map _).sum_eq]
  exact List.sum_map_count_dedup_filter_eq_countP _ t.events

end Tally

end Gradebook
