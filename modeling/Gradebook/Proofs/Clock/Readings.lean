import Gradebook.Proofs.Clock
import Gradebook.Proofs.Time.Order

/-!
# Readings of a clock

The instants that a clock yields over a run of draws.  The sequential clock steps forwards or stands
still, also once it counts no further spans, so that its readings are in the order of time: until
they leave the range of instants or its counter wraps.
-/

namespace Gradebook

open Time (Instant)

namespace IdClock

variable {κ : Type} [IdClock κ]

def times (k : κ) : List Draw → List Instant
  | [] => []
  | .id family :: rest => times (newId k family).2 rest
  | .time :: rest => (now k).1 :: times (now k).2 rest

theorem times_append (draws more : List Draw) (k : κ) :
    times k (draws ++ more) = times k draws ++ times (after k draws) more := by
  induction draws generalizing k with
  | nil => rfl
  | cons d draws ih =>
    cases d with
    | id family => exact ih _
    | time => exact congrArg _ (ih _)

end IdClock

namespace SequentialClock

/-- The next readings, up to a number of them, can be counted and are in the range of instants. -/
structure CanBeRead (c : SequentialClock) (n : Nat) : Prop where
  counted : c.ticks.toNat + n ≤ UInt64.size
  inRange : ∀ i, c.ticks.toNat ≤ i → i < c.ticks.toNat + n →
    c.start.Reaches (c.span * (min i maxTick : Nat))

theorem reading_mono {c : SequentialClock} (hspan : 0 ≤ c.span) {n i j : Nat}
    (h : c.CanBeRead n) (hi : c.ticks.toNat ≤ i) (hij : i ≤ j) (hj : j < c.ticks.toNat + n) :
    c.reading i ≤ c.reading j := by
  have hmin : min i maxTick ≤ min j maxTick := by omega
  have hspans : c.span * (min i maxTick : Nat) ≤ c.span * (min j maxTick : Nat) :=
    Int.mul_le_mul_of_nonneg_left (Int.ofNat_le.2 hmin) hspan
  have hforward : 0 ≤ c.span * (min i maxTick : Nat) :=
    Int.mul_nonneg hspan (Int.natCast_nonneg _)
  exact Instant.shift_mono hforward hspans (h.inRange i hi (by omega)) (h.inRange j (by omega) hj)

theorem now_eq (c : SequentialClock) :
    IdClock.now c = (c.reading c.ticks.toNat, { c with ticks := c.ticks + 1 }) := rfl

theorem CanBeRead.ticks_next {c : SequentialClock} {n : Nat} (h : c.CanBeRead (n + 2)) :
    (IdClock.now c).2.ticks.toNat = c.ticks.toNat + 1 := by
  have hcounted := h.counted
  have hlt : c.ticks.toNat + 1 < UInt64.size := by omega
  rw [now_eq, UInt64.toNat_add, UInt64.toNat_one]
  exact Nat.mod_eq_of_lt hlt

theorem CanBeRead.next {c : SequentialClock} {n : Nat} (h : c.CanBeRead (n + 2)) :
    (IdClock.now c).2.CanBeRead (n + 1) := by
  have hcounted := h.counted
  constructor
  · rw [h.ticks_next]
    omega
  · intro i hi hlt
    rw [h.ticks_next] at hi hlt
    exact h.inRange i (by omega) (by omega)

/-- The readings over a run of draws are numbered one after the other. -/
theorem times_eq (draws : List Draw) {c : SequentialClock} {n : Nat}
    (hn : (IdClock.times c draws).length = n) (h : c.CanBeRead n) :
    IdClock.times c draws = (List.range' c.ticks.toNat n).map c.reading := by
  induction draws generalizing c n with
  | nil =>
    cases hn
    rfl
  | cons d draws ih =>
    cases d with
    | id family => exact ih (c := (IdClock.newId c family).2) hn ⟨h.counted, h.inRange⟩
    | time =>
      cases n with
      | zero => cases hn
      | succ n =>
        have hlength : (IdClock.times (IdClock.now c).2 draws).length = n := Nat.succ.inj hn
        rw [List.range'_succ, List.map_cons]
        apply congrArg (c.reading c.ticks.toNat :: ·)
        cases n with
        | zero => exact List.eq_nil_of_length_eq_zero hlength
        | succ n =>
          have hrest := ih hlength h.next
          rw [h.ticks_next] at hrest
          exact hrest

theorem times_inOrder {c : SequentialClock} (hspan : 0 ≤ c.span) {draws : List Draw}
    (h : c.CanBeRead (IdClock.times c draws).length) :
    (IdClock.times c draws).Pairwise (· ≤ ·) := by
  rw [times_eq draws rfl h, List.pairwise_map]
  apply List.Pairwise.imp_of_mem _ List.pairwise_lt_range'
  intro i j hi hj hij
  rw [List.mem_range'_1] at hi hj
  exact reading_mono hspan h hi.1 (Nat.le_of_lt hij) hj.2

end SequentialClock

end Gradebook
