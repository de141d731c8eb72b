import Gradebook.Time.Instant

/-!
# The order of instants

Instants are ordered by second and then by nanosecond, which is a linear order.  A longer span from
one instant does not lead to an earlier one, as long as neither leads out of the range; that holds
also where the instant lies inside a leap second and the shorter span stays in it.
-/

namespace Gradebook.Time.Instant

theorem le_iff {a b : Instant} :
    a ≤ b ↔ a.second < b.second ∨ (a.second = b.second ∧ a.nano ≤ b.nano) := by
  have hdef : a ≤ b ↔ b.before a = false := Iff.rfl
  rw [hdef]
  simp only [before, Bool.or_eq_false_iff, Bool.and_eq_false_iff, decide_eq_false_iff_not,
    beq_eq_false_iff_ne]
  omega

theorem le_refl (a : Instant) : a ≤ a :=
  le_iff.2 (.inr ⟨rfl, Nat.le_refl _⟩)

theorem le_trans {a b c : Instant} (hab : a ≤ b) (hbc : b ≤ c) : a ≤ c := by
  rw [le_iff] at *
  omega

theorem le_antisymm {a b : Instant} (hab : a ≤ b) (hba : b ≤ a) : a = b := by
  rw [le_iff] at hab hba
  have hsecond : a.second = b.second := by omega
  have hnano : a.nano = b.nano := by omega
  cases a
  cases b
  subst hsecond hnano
  rfl

theorem later_of_le {a b : Instant} (h : a ≤ b) : a.later b = b := by
  simp only [later]
  split
  case isTrue => rfl
  case isFalse hbefore =>
    have hba : b ≤ a := Bool.eq_false_iff.2 hbefore
    exact le_antisymm h hba

theorem later_eq_or (a b : Instant) : a.later b = a ∨ a.later b = b := by
  unfold later
  split
  · exact .inr rfl
  · exact .inl rfl

theorem le_later (a b : Instant) : a ≤ a.later b ∧ b ≤ a.later b := by
  unfold later
  split
  case isTrue hbefore =>
    have hlt : ¬ b ≤ a := ne_false_of_eq_true hbefore
    rw [le_iff] at hlt ⊢
    exact ⟨by omega, le_refl b⟩
  case isFalse hbefore =>
    have hba : b ≤ a := Bool.eq_false_iff.2 hbefore
    exact ⟨le_refl a, hba⟩

/-- The whole seconds of a number of nanoseconds, and what remains. -/
def splitNanos (nanos : Int) : Int × Int :=
  (nanos / 1000000000, nanos % 1000000000)

/-- The second and the nanosecond count to which a span of nanoseconds leads. -/
def counts (t : Instant) (span : Int) : Int × Int :=
  t.advance (span.tdiv nanosPerSecond) (span.tmod nanosPerSecond)

/-- A span forwards is counted in nanoseconds, from a leap second only if it leads out of it. -/
theorem counts_forwards (t : Instant) {span : Int} (h : 0 ≤ span) :
    t.counts span =
      if t.nano < 1000000000 then splitNanos (t.second * 1000000000 + t.nano + span)
      else if t.nano + span < 2000000000 then (t.second, t.nano + span)
      else splitNanos ((t.second - 1) * 1000000000 + t.nano + span) := by
  have hnano : t.nano < 2 * nanosPerSecond := t.inRange.2.2.1
  have hcast : ((nanosPerSecond : Nat) : Int) = 1000000000 := rfl
  simp only [counts, advance, carry, splitNanos, hcast]
  rw [Int.tdiv_eq_ediv_of_nonneg h, Int.tmod_eq_emod_of_nonneg h]
  repeat' split
  all_goals simp only [Prod.mk.injEq, true_and]; omega

/-- The span leads neither before the first nor after the last instant. -/
def Reaches (t : Instant) (span : Int) : Prop :=
  InRange (t.counts span).1 (t.counts span).2.toNat

instance (t : Instant) (span : Int) : Decidable (t.Reaches span) :=
  inferInstanceAs (Decidable (InRange (t.counts span).1 (t.counts span).2.toNat))

theorem shift_of_reaches {t : Instant} {span : Int} (h : t.Reaches span) :
    t.shift span = ⟨(t.counts span).1, (t.counts span).2.toNat, h⟩ := by
  obtain ⟨count, hcount⟩ : ∃ count, t.counts span = count := ⟨_, rfl⟩
  have hrange : InRange count.1 count.2.toNat := by rwa [← hcount]
  have hof : of? count.1 count.2.toNat = some ⟨count.1, count.2.toNat, hrange⟩ := dif_pos hrange
  have hshift : t.shift span = ⟨count.1, count.2.toNat, hrange⟩ := by
    unfold counts at hcount
    simp only [shift, hcount, hof]
  subst hcount
  exact hshift

theorem shift_mono {t : Instant} {span further : Int} (hforward : 0 ≤ span)
    (hle : span ≤ further) (hspan : t.Reaches span) (hfurther : t.Reaches further) :
    t.shift span ≤ t.shift further := by
  have hrange : t.nano < 2 * nanosPerSecond := t.inRange.2.2.1
  rw [shift_of_reaches hspan, shift_of_reaches hfurther, le_iff]
  simp only [counts_forwards t hforward, counts_forwards t (Int.le_trans hforward hle), splitNanos]
  repeat' split
  all_goals simp only [true_and]; omega

end Gradebook.Time.Instant
