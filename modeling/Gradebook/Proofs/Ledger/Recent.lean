import Mathlib.Data.List.FinRange
import Gradebook.Ledger.Basic
import Gradebook.Proofs.Time.Order

/-!
# The newest records

The positions of a list of records have one order by time, from the latest on, in which positions of
one time stand from the last on.  A list of recent records is the start of that order.
-/

namespace Gradebook

open Time (Instant)

variable {α : Type}

theorem pairwise_snd_zipIdx (l : List α) : l.zipIdx.Pairwise fun x y => x.2 ≠ y.2 := by
  rw [← List.pairwise_map (f := Prod.snd) (R := (· ≠ ·)), List.zipIdx_map_snd]
  exact List.nodup_range'

/-- A stable sort keeps an order of the list between members that the comparison does not tell
apart. -/
theorem pairwise_mergeSort_stable {le : α → α → Bool}
    (htrans : ∀ a b c, le a b = true → le b c = true → le a c = true)
    (htotal : ∀ a b, (le a b || le b a) = true) {R : α → α → Prop} {l : List α}
    (hl : l.Pairwise R) :
    (l.mergeSort le).Pairwise fun a b => le a b = true ∧ (le b a = true → R a b) := by
  -- the members are sorted together with their places, which decide between equals
  have hsorted := List.pairwise_mergeSort (List.zipIdxLE_trans htrans) (List.zipIdxLE_total htotal)
    l.zipIdx
  have hperm := List.mergeSort_perm l.zipIdx (List.zipIdxLE le)
  have hapart := (hperm.pairwise_iff fun hne => Ne.symm hne).2 (pairwise_snd_zipIdx l)
  rw [← List.mergeSort_zipIdx, List.pairwise_map]
  refine (hsorted.and hapart).imp_of_mem ?_
  rintro ⟨a, i⟩ ⟨b, j⟩ ha hb ⟨hle, hne⟩
  obtain ⟨hi, hai⟩ := List.mem_zipIdx' (hperm.mem_iff.1 ha)
  obtain ⟨hj, hbj⟩ := List.mem_zipIdx' (hperm.mem_iff.1 hb)
  simp only [List.zipIdxLE] at hle
  split at hle
  next hab =>
    refine ⟨hab, ?_⟩
    intro hba
    rw [if_pos hba, decide_eq_true_eq] at hle
    have hR := List.pairwise_iff_getElem.1 hl i j hi hj (Nat.lt_of_le_of_ne hle hne)
    rwa [← hai, ← hbj] at hR
  next => cases hle

/-- A stable sort of the members at some positions arranges these positions: in the order of the
comparison, and in the order they had where it does not tell their members apart. -/
theorem exists_sorted_positions {le : α → α → Bool}
    (htrans : ∀ a b c, le a b = true → le b c = true → le a c = true)
    (htotal : ∀ a b, (le a b || le b a) = true) (l : List α)
    {R : Fin l.length → Fin l.length → Prop} {positions : List (Fin l.length)}
    (hpositions : positions.Pairwise R) :
    ∃ order : List (Fin l.length), order.Perm positions ∧
      (order.Pairwise fun i j => le (l.get i) (l.get j) = true ∧
        (le (l.get j) (l.get i) = true → R i j)) ∧
      (positions.map l.get).mergeSort le = order.map l.get := by
  let compare : Fin l.length → Fin l.length → Bool := fun i j => le (l.get i) (l.get j)
  have htranspos (i j k) : compare i j = true → compare j k = true → compare i k = true :=
    htrans _ _ _
  have htotalpos (i j) : (compare i j || compare j i) = true := htotal _ _
  have hsorted := pairwise_mergeSort_stable htranspos htotalpos hpositions
  have hmap : (positions.mergeSort compare).map l.get = (positions.map l.get).mergeSort le :=
    List.map_mergeSort fun i _ j _ => rfl
  exact ⟨positions.mergeSort compare, List.mergeSort_perm _ _, hsorted, hmap.symm⟩

/-- The comparison by which records are sorted. -/
def notBefore (time : α → Instant) (a b : α) : Bool :=
  !(time a).before (time b)

theorem notBefore_iff (time : α → Instant) (a b : α) :
    notBefore time a b = true ↔ time b ≤ time a := by
  unfold notBefore
  rw [Bool.not_eq_true']
  rfl

theorem notBefore_trans (time : α → Instant) (a b c : α) (hab : notBefore time a b = true)
    (hbc : notBefore time b c = true) : notBefore time a c = true := by
  rw [notBefore_iff] at *
  exact Instant.le_trans hbc hab

theorem notBefore_total (time : α → Instant) (a b : α) :
    (notBefore time a b || notBefore time b a) = true := by
  rw [Bool.or_eq_true, notBefore_iff, notBefore_iff, Instant.le_iff, Instant.le_iff]
  omega

/-- The record at a position is later than that at another one, or of the same time and appended
after it. -/
def IsNewer (time : α → Instant) (records : List α) (i j : Fin records.length) : Prop :=
  (time (records.get j)).before (time (records.get i)) = true ∨
    (time (records.get i) = time (records.get j) ∧ j < i)

theorem isNewer_iff (time : α → Instant) (records : List α) (i j : Fin records.length) :
    IsNewer time records i j ↔
      time (records.get j) ≤ time (records.get i) ∧
        (time (records.get i) ≤ time (records.get j) → j < i) := by
  have hbefore : (time (records.get j)).before (time (records.get i)) = true ↔
      ¬ time (records.get i) ≤ time (records.get j) := by
    rw [← Bool.not_eq_false]
    rfl
  unfold IsNewer
  rw [hbefore]
  constructor
  · rintro (hlater | ⟨hsame, hafter⟩)
    · refine ⟨?_, fun hle => absurd hle hlater⟩
      rw [Instant.le_iff] at *
      omega
    · exact ⟨hsame ▸ Instant.le_refl _, fun _ => hafter⟩
  · rintro ⟨hle, hties⟩
    by_cases hge : time (records.get i) ≤ time (records.get j)
    · exact .inr ⟨Instant.le_antisymm hge hle, hties hge⟩
    · exact .inl hge

theorem IsNewer.asymm {time : α → Instant} {records : List α} {i j : Fin records.length}
    (h : IsNewer time records i j) : ¬ IsNewer time records j i := by
  rw [isNewer_iff] at *
  rintro ⟨hle, hties⟩
  exact Nat.lt_asymm (h.2 hle) (hties h.1)

/-- Every position once, those of newer records first. -/
structure IsNewestOrder (time : α → Instant) (records : List α)
    (order : List (Fin records.length)) : Prop where
  every_position : order.Perm (List.finRange records.length)
  newer_first : order.Pairwise (IsNewer time records)

theorem IsNewestOrder.unique {time : α → Instant} {records : List α}
    {order other : List (Fin records.length)} (h : IsNewestOrder time records order)
    (hother : IsNewestOrder time records other) : other = order := by
  apply List.Perm.eq_of_pairwise ?_ hother.newer_first h.newer_first
  · exact hother.every_position.trans h.every_position.symm
  · intro i j _ _ hij hji
    exact absurd hji hij.asymm

theorem exists_newestOrder (time : α → Instant) (records : List α) :
    ∃ order, IsNewestOrder time records order ∧
      newestFirst time records = order.map records.get := by
  have hpositions : (List.finRange records.length).reverse.Pairwise fun i j => j < i :=
    List.pairwise_reverse.2 (List.pairwise_lt_finRange _)
  obtain ⟨order, hperm, hpairs, hsorted⟩ :=
    exists_sorted_positions (notBefore_trans time) (notBefore_total time) records hpositions
  refine ⟨order, ⟨hperm.trans (List.reverse_perm _), ?_⟩, ?_⟩
  · refine hpairs.imp ?_
    rintro i j ⟨hle, hties⟩
    rw [notBefore_iff] at hle hties
    exact (isNewer_iff time records i j).2 ⟨hle, hties⟩
  · rw [List.map_reverse, List.map_get_finRange] at hsorted
    exact hsorted

/-- For every number a list of that many records, as far as there are so many, is taken from the
start of an order of their positions. -/
structure TakesNewest (time : α → Instant) (records : List α) (order : List (Fin records.length))
    (newest : Nat → List α) : Prop where
  ordered : IsNewestOrder time records order
  only : ∀ other, IsNewestOrder time records other → other = order
  taken : ∀ n, newest n = (order.take n).map records.get
  length : ∀ n, (newest n).length = min n records.length
  once : ∀ n, (order.take n).Nodup
  none_older : ∀ n, ∀ i ∈ order.take n, ∀ j, j ∉ order.take n →
    time (records.get j) ≤ time (records.get i)
  starts : ∀ n m, n ≤ m → newest n <+: newest m
  none : newest 0 = []
  all : ∀ n, records.length ≤ n → newest n = order.map records.get

theorem IsNewestOrder.takesNewest {time : α → Instant} {records : List α}
    {order : List (Fin records.length)} (h : IsNewestOrder time records order)
    (hsorted : newestFirst time records = order.map records.get) :
    TakesNewest time records order fun n => recent time n records := by
  have htaken : ∀ n, recent time n records = (order.take n).map records.get := by
    intro n
    unfold recent
    rw [hsorted, List.map_take]
  have hlength : order.length = records.length := by
    rw [h.every_position.length_eq, List.length_finRange]
  refine ⟨h, fun other hother => h.unique hother, htaken, ?_, ?_, ?_, ?_, rfl, ?_⟩
  · intro n
    rw [htaken, List.length_map, List.length_take, hlength]
  · intro n
    have hnodup := h.every_position.nodup_iff.2 (List.nodup_finRange _)
    exact (List.take_sublist n order).nodup hnodup
  · intro n i hi j hj
    -- a position that is not in the start of the order is in the rest of it
    have hrest : j ∈ order.drop n := by
      have hmem := h.every_position.mem_iff.2 (List.mem_finRange j)
      rw [← List.take_append_drop n order, List.mem_append] at hmem
      exact hmem.resolve_left hj
    have hpairs := h.newer_first
    rw [← List.take_append_drop n order, List.pairwise_append] at hpairs
    have hnewer := hpairs.2.2 i hi j hrest
    exact ((isNewer_iff time records i j).1 hnewer).1
  · intro n m hle
    exact List.take_prefix_take_left hle
  · intro n hn
    rw [htaken, List.take_of_length_le (hlength.trans_le hn)]

/-- The recent grades are the start of the log of grades in its order from the newest record on, and
the recent stamps are that of the stamps among the rewards. -/
theorem recent_lists_are_newest (l : Ledgers) :
    (∃ order, TakesNewest (·.timestamp) l.grades order l.recentGrades) ∧
      ∃ order, TakesNewest (·.timestamp) (l.rewards.filter (·.kind = .stamp)) order
        l.recentStamps := by
  constructor
  · obtain ⟨order, horder, hsorted⟩ := exists_newestOrder (·.timestamp) l.grades
    exact ⟨order, horder.takesNewest hsorted⟩
  · obtain ⟨order, horder, hsorted⟩ := exists_newestOrder (·.timestamp) l.stampEntries
    exact ⟨order, horder.takesNewest hsorted⟩

end Gradebook
