import Gradebook.Ledger.Views
import Gradebook.Proofs.Ledger.Recent

/-!
# Rankings

The positions of a roster have one order by stamps, from the most on, in which positions of equal
balances stand as on the roster.  A ranking has one row for each position, in that order, with the
student's own record and the time of the latest stamps.  Of the rewards it depends on which stamp
entries there are, and on nothing else.
-/

namespace Gradebook

open Time (Instant)

namespace Ledgers

theorem foldl_later (times : List Instant) (t : Instant) :
    times.foldl Instant.later t ∈ t :: times ∧
      ∀ u ∈ t :: times, u ≤ times.foldl Instant.later t := by
  induction times generalizing t with
  | nil =>
    refine ⟨List.mem_singleton_self t, ?_⟩
    intro u hu
    rw [List.mem_singleton.1 hu]
    exact Instant.le_refl t
  | cons v times ih =>
    obtain ⟨hmem, hbound⟩ := ih (t.later v)
    obtain ⟨ht, hv⟩ := t.le_later v
    have hfirst := hbound (t.later v) List.mem_cons_self
    rw [List.foldl_cons]
    constructor
    · rcases List.mem_cons.1 hmem with heq | hrest
      · rw [heq]
        rcases t.later_eq_or v with h | h
        · rw [h]
          exact List.mem_cons_self
        · rw [h]
          exact List.mem_cons_of_mem t List.mem_cons_self
      · exact List.mem_cons_of_mem t (List.mem_cons_of_mem v hrest)
    · intro u hu
      rcases List.mem_cons.1 hu with rfl | hu
      · exact Instant.le_trans ht hfirst
      · rcases List.mem_cons.1 hu with rfl | hu
        · exact Instant.le_trans hv hfirst
        · exact hbound u (List.mem_cons_of_mem _ hu)

theorem latest?_eq_none_iff (times : List Instant) : latest? times = none ↔ times = [] := by
  cases times with
  | nil => exact iff_of_true rfl rfl
  | cons t times => exact iff_of_false (Option.some_ne_none _) (List.cons_ne_nil t times)

theorem latest?_eq_some_iff {times : List Instant} {t : Instant} :
    latest? times = some t ↔ t ∈ times ∧ ∀ u ∈ times, u ≤ t := by
  cases times with
  | nil => exact iff_of_false nofun fun h => List.not_mem_nil h.1
  | cons v times =>
    obtain ⟨hmem, hbound⟩ := foldl_later times v
    constructor
    · intro h
      cases h
      exact ⟨hmem, hbound⟩
    · rintro ⟨ht, hlatest⟩
      exact congrArg some (Instant.le_antisymm (hlatest _ hmem) (hbound t ht))

theorem latest?_congr {times others : List Instant} (h : ∀ t, t ∈ times ↔ t ∈ others) :
    latest? times = latest? others := by
  apply Option.ext
  intro t
  simp only [latest?_eq_some_iff, h]

end Ledgers

/-- An entry of stamps for a student. -/
def RewardEntry.IsStampFor (e : RewardEntry) (id : StudentId) : Prop :=
  e.kind = .stamp ∧ e.studentId = id

namespace Ledgers

theorem mem_stampTimes {l : Ledgers} {id : StudentId} {t : Instant} :
    t ∈ ((l.rewardsOf id).filter (·.kind = .stamp)).map (·.timestamp) ↔
      ∃ e ∈ l.rewards, e.IsStampFor id ∧ e.timestamp = t := by
  simp only [rewardsOf, List.mem_map, List.mem_filter, decide_eq_true_eq, RewardEntry.IsStampFor]
  constructor
  · rintro ⟨e, ⟨⟨he, hid⟩, hkind⟩, ht⟩
    exact ⟨e, he, ⟨hkind, hid⟩, ht⟩
  · rintro ⟨e, he, ⟨hkind, hid⟩, ht⟩
    exact ⟨e, ⟨⟨he, hid⟩, hkind⟩, ht⟩

theorem lastStampAt?_eq_none_iff (l : Ledgers) (id : StudentId) :
    l.lastStampAt? id = none ↔ ∀ e ∈ l.rewards, ¬ e.IsStampFor id := by
  rw [lastStampAt?, latest?_eq_none_iff, List.eq_nil_iff_forall_not_mem]
  simp only [mem_stampTimes]
  constructor
  · intro h e he hstamp
    exact h e.timestamp ⟨e, he, hstamp, rfl⟩
  · rintro h t ⟨e, he, hstamp, -⟩
    exact h e he hstamp

theorem lastStampAt?_eq_some_iff {l : Ledgers} {id : StudentId} {t : Instant} :
    l.lastStampAt? id = some t ↔
      (∃ e ∈ l.rewards, e.IsStampFor id ∧ e.timestamp = t) ∧
        ∀ e ∈ l.rewards, e.IsStampFor id → e.timestamp ≤ t := by
  rw [lastStampAt?, latest?_eq_some_iff, mem_stampTimes]
  apply and_congr_right
  intro _
  constructor
  · intro h e he hstamp
    exact h e.timestamp (mem_stampTimes.2 ⟨e, he, hstamp, rfl⟩)
  · intro h u hu
    obtain ⟨e, he, hstamp, rfl⟩ := mem_stampTimes.1 hu
    exact h e he hstamp

/-- Ledgers with the same students, and with the same stamp entries among the rewards. -/
structure AgreeOnStamps (l m : Ledgers) : Prop where
  roster : l.roster = m.roster
  stamps : ∀ e : RewardEntry, e.kind = .stamp → (e ∈ l.rewards ↔ e ∈ m.rewards)

theorem AgreeOnStamps.lastStampAt? {l m : Ledgers} (h : l.AgreeOnStamps m) (id : StudentId) :
    l.lastStampAt? id = m.lastStampAt? id := by
  apply latest?_congr
  intro t
  rw [mem_stampTimes, mem_stampTimes]
  constructor
  · rintro ⟨e, he, hstamp, ht⟩
    exact ⟨e, (h.stamps e hstamp.1).1 he, hstamp, ht⟩
  · rintro ⟨e, he, hstamp, ht⟩
    exact ⟨e, (h.stamps e hstamp.1).2 he, hstamp, ht⟩

theorem AgreeOnStamps.rankings {l m : Ledgers} (h : l.AgreeOnStamps m) :
    l.rankings = m.rankings := by
  have hrow : l.rankingOf = m.rankingOf := by
    funext s
    unfold rankingOf
    rw [h.lastStampAt? s.id]
  unfold Ledgers.rankings
  rw [hrow, h.roster]

end Ledgers

/-- The student at a position has more stamps than that at another one, or as many and stands before
it. -/
def RanksAbove (r : Roster) (i j : Fin r.length) : Prop :=
  (r.get j).stamps.val < (r.get i).stamps.val ∨ ((r.get i).stamps = (r.get j).stamps ∧ i < j)

theorem RanksAbove.asymm {r : Roster} {i j : Fin r.length} (h : RanksAbove r i j) :
    ¬ RanksAbove r j i := by
  rintro (hmore | ⟨hsame, hbefore⟩)
  · rcases h with hless | ⟨heq, -⟩
    · exact Nat.lt_asymm hmore hless
    · rw [heq] at hmore
      exact Nat.lt_irrefl _ hmore
  · rcases h with hless | ⟨-, hafter⟩
    · rw [hsame] at hless
      exact Nat.lt_irrefl _ hless
    · exact Nat.lt_asymm hbefore hafter

/-- Every position once, those of greater balances first. -/
structure IsRankOrder (r : Roster) (order : List (Fin r.length)) : Prop where
  every_position : order.Perm (List.finRange r.length)
  above_first : order.Pairwise (RanksAbove r)

theorem IsRankOrder.unique {r : Roster} {order other : List (Fin r.length)}
    (h : IsRankOrder r order) (hother : IsRankOrder r other) : other = order := by
  apply List.Perm.eq_of_pairwise ?_ hother.above_first h.above_first
  · exact hother.every_position.trans h.every_position.symm
  · intro i j _ _ hij hji
    exact absurd hji hij.asymm

theorem exists_rankOrder (l : Ledgers) :
    ∃ order, IsRankOrder l.roster order ∧
      l.rankings = order.map fun i => l.rankingOf (l.roster.get i) := by
  let atLeast : Student → Student → Bool := fun s t => t.stamps.val ≤ s.stamps.val
  have htrans : ∀ s t u, atLeast s t = true → atLeast t u = true → atLeast s u = true := by
    intro s t u hst htu
    rw [decide_eq_true_eq] at *
    exact Nat.le_trans htu hst
  have htotal : ∀ s t, (atLeast s t || atLeast t s) = true := by
    intro s t
    rw [Bool.or_eq_true, decide_eq_true_eq, decide_eq_true_eq]
    exact Nat.le_total _ _
  obtain ⟨order, hperm, hpairs, hsorted⟩ :=
    exists_sorted_positions htrans htotal l.roster (List.pairwise_lt_finRange _)
  refine ⟨order, ⟨hperm, ?_⟩, ?_⟩
  · refine hpairs.imp ?_
    rintro i j ⟨hle, hties⟩
    rw [decide_eq_true_eq] at hle hties
    rcases Nat.lt_or_eq_of_le hle with hless | heq
    · exact .inl hless
    · refine .inr ⟨?_, hties (Nat.le_of_eq heq.symm)⟩
      rw [Count.mk.injEq, heq]
  · have hrows : (l.roster.mergeSort atLeast).map l.rankingOf = l.rankings :=
      List.map_mergeSort fun s _ t _ => rfl
    rw [List.map_get_finRange] at hsorted
    rw [← hrows, hsorted, List.map_map]
    rfl

/-- A row that shows a student's own record and when the student was last given stamps. -/
structure Ranking.Shows (row : Ranking) (s : Student) (rewards : List RewardEntry) : Prop where
  id : row.id = s.id
  name : row.name = s.name
  stamps : row.stamps = s.stamps
  hasMilestone : row.hasMilestone = true ↔ 100 ≤ s.stamps.val
  unstamped : row.lastStampAt = none ↔ ∀ e ∈ rewards, ¬ e.IsStampFor s.id
  latest : ∀ t, row.lastStampAt = some t ↔
    (∃ e ∈ rewards, e.IsStampFor s.id ∧ e.timestamp = t) ∧
      ∀ e ∈ rewards, e.IsStampFor s.id → e.timestamp ≤ t

theorem Ledgers.shows_rankingOf (l : Ledgers) (s : Student) :
    (l.rankingOf s).Shows s l.rewards where
  id := rfl
  name := rfl
  stamps := rfl
  hasMilestone := decide_eq_true_iff
  unstamped := l.lastStampAt?_eq_none_iff s.id
  latest _ := lastStampAt?_eq_some_iff

/-- A ranking has one row for each position of the roster, in the only order by stamps that keeps
equal balances as they stand; each row shows the student at its position.  Neither penalties nor the
order of the rewards have a say in it. -/
theorem rankings_are_stable_descending (l : Ledgers) :
    (∃ order, IsRankOrder l.roster order ∧
        (∀ other, IsRankOrder l.roster other → other = order) ∧
        List.Forall₂ (fun i (row : Ranking) => row.Shows (l.roster.get i) l.rewards) order
          l.rankings) ∧
      (∀ penalties : List RewardEntry, (∀ e ∈ penalties, e.kind = .penalty) →
        Ledgers.rankings { l with rewards := l.rewards ++ penalties } = l.rankings) ∧
      ∀ rewards : List RewardEntry, rewards.Perm l.rewards →
        Ledgers.rankings { l with rewards := rewards } = l.rankings := by
  refine ⟨?_, ?_, ?_⟩
  · obtain ⟨order, horder, hrows⟩ := exists_rankOrder l
    refine ⟨order, horder, fun other hother => horder.unique hother, ?_⟩
    rw [hrows, List.forall₂_map_right_iff, List.forall₂_same]
    intro i _
    exact l.shows_rankingOf (l.roster.get i)
  · intro penalties hpenalties
    refine Ledgers.AgreeOnStamps.rankings ⟨rfl, ?_⟩
    intro e hstamp
    have hnot : e ∉ penalties := by
      intro he
      rw [hpenalties e he] at hstamp
      cases hstamp
    rw [List.mem_append]
    exact or_iff_left hnot
  · intro rewards hperm
    exact Ledgers.AgreeOnStamps.rankings ⟨rfl, fun e _ => hperm.mem_iff⟩

/-- Two students share an identity and so the time of the latest stamps, which a later penalty does
not move; two others have the same balance. -/
theorem penalty_changes_no_row_of_tied_students :
    let kim : Student := { Student.new "kim" "Kim" with stamps := ⟨100, by decide⟩ }
    let lee : Student := { Student.new "lee" "Lee" with stamps := ⟨99, by decide⟩ }
    let stamps : RewardEntry := ⟨"stamp-1", "kim", .stamp, ⟨5, by decide⟩, some "stamp", .epoch⟩
    let penalty : RewardEntry :=
      ⟨"penalty-2", "kim", .penalty, ⟨1, by decide⟩, some "penalty", .latest⟩
    let l : Ledgers :=
      ⟨[lee, kim, { lee with id := "park" }, { kim with name := "Kim the second" }], [], [stamps]⟩
    (∀ e ∈ [penalty], e.kind = .penalty) ∧
      Ledgers.rankings { l with rewards := l.rewards ++ [penalty] } = l.rankings ∧
      l.rankings = [⟨"kim", "Kim", ⟨100, by decide⟩, true, some .epoch⟩,
        ⟨"kim", "Kim the second", ⟨100, by decide⟩, true, some .epoch⟩,
        ⟨"lee", "Lee", ⟨99, by decide⟩, false, none⟩,
        ⟨"park", "Lee", ⟨99, by decide⟩, false, none⟩] := by
  intro kim lee stamps penalty l
  have hpenalty : ∀ e ∈ [penalty], e.kind = .penalty := by decide
  let order : List (Fin l.roster.length) :=
    [⟨1, by decide⟩, ⟨3, by decide⟩, ⟨0, by decide⟩, ⟨2, by decide⟩]
  have horder : IsRankOrder l.roster order := ⟨by decide, by unfold RanksAbove; decide⟩
  obtain ⟨ranked, hranked, hrows⟩ := exists_rankOrder l
  refine ⟨hpenalty, (rankings_are_stable_descending l).2.1 [penalty] hpenalty, ?_⟩
  rw [hrows, horder.unique hranked]
  rfl

end Gradebook
