import Gradebook.Proofs.Clock

/-!
# Numbers of identities

The identities that a sequential clock yields over a run of draws, one by one: each is the family it
is drawn for with its number in the run.  A family may hold dashes and digits and may look like an
identity itself; the number is what stands behind the last dash, so that no identity comes twice.
-/

namespace Gradebook

/-- The family that an identity is drawn for. -/
def Draw.family? : Draw → Option String
  | id family => some family
  | time => none

namespace SequentialClock

/-- What stands behind the last dash of an identity. -/
def behindDash (id : String) : List Char :=
  (id.toList.reverse.takeWhile (· ≠ '-')).reverse

theorem behindDash_numbered (family : String) (n : Nat) :
    behindDash (numbered family n) = Text.digits n := by
  have hreverse : (family.toList ++ '-' :: Text.digits n).reverse =
      (Text.digits n).reverse ++ '-' :: family.toList.reverse := by simp
  have hdigits : ∀ c ∈ (Text.digits n).reverse, decide (c ≠ '-') = true := by
    intro c hc
    have hdigit := Text.isDigit_of_mem_digits (List.mem_reverse.1 hc)
    exact decide_eq_true fun hdash => absurd (hdash ▸ hdigit) (by decide)
  have hdash : ∀ c ∈ ('-' :: family.toList.reverse).head?, decide (c ≠ '-') = false := by
    intro c hc
    cases hc
    decide
  rw [behindDash, toList_numbered, hreverse, Text.takeWhile_append_of_ends hdigits hdash,
    List.reverse_reverse]

/-- The identities of a run of draws are numbered one after the other, readings of the time between
them or not. -/
theorem ids_eq (draws : List Draw) {c : SequentialClock}
    (h : c.drawn.toNat + (draws.filterMap Draw.family?).length < UInt64.size) :
    IdClock.ids c draws = (draws.filterMap Draw.family?).mapIdx fun i family =>
      numbered family (c.drawn.toNat + i + 1) := by
  induction draws generalizing c with
  | nil => rfl
  | cons d draws ih =>
    cases d with
    | time => exact ih (c := (IdClock.now c).2) h
    | id family =>
      have hfamilies : (Draw.id family :: draws).filterMap Draw.family? =
          family :: draws.filterMap Draw.family? := rfl
      rw [hfamilies, List.length_cons] at h
      have hnext : (c.drawn + 1).toNat = c.drawn.toNat + 1 := drawn_succ (by omega)
      have hrest := ih (c := { c with drawn := c.drawn + 1 }) (by simp only [hnext]; omega)
      simp only [hnext] at hrest
      rw [hfamilies, List.mapIdx_cons, IdClock.ids, newId_eq, hrest, hnext]
      simp only [Nat.add_zero, Nat.add_assoc, Nat.add_comm 1]

/-- A new clock yields no identity twice, for whichever families it is asked, and behind the last
dash of each identity stands its place among them. -/
theorem sequential_identities_never_repeat (start : Time.Instant) (span : Int) (draws : List Draw)
    (h : (draws.filterMap Draw.family?).length < UInt64.size) :
    let ids := IdClock.ids (new start span) draws
    ids.length = (draws.filterMap Draw.family?).length ∧ ids.Nodup ∧
      ∀ i (hi : i < ids.length), behindDash ids[i] = Text.digits (i + 1) := by
  intro ids
  have hdrawn : (new start span).drawn.toNat = 0 := rfl
  have hbound : (new start span).drawn.toNat + (draws.filterMap Draw.family?).length <
      UInt64.size := by
    rw [hdrawn]
    omega
  have hids : ids = (draws.filterMap Draw.family?).mapIdx fun i family =>
      numbered family (i + 1) := by
    have hall := ids_eq draws hbound
    simp only [hdrawn, Nat.zero_add] at hall
    exact hall
  have hlength : ids.length = (draws.filterMap Draw.family?).length := by
    rw [hids, List.length_mapIdx]
  refine ⟨hlength, drawsDistinct hbound draws (Nat.le_of_eq hlength), ?_⟩
  intro i hi
  have hfamily : i < (draws.filterMap Draw.family?).length := hlength ▸ hi
  have hid : ids[i] = numbered (draws.filterMap Draw.family?)[i] (i + 1) := by
    simp only [hids, List.getElem_mapIdx]
  rw [hid, behindDash_numbered]

/-- Families that look like identities of other families. -/
def lookalikes : List Draw :=
  [.id "log-2", .time, .id "log", .id "log-2-", .time, .time, .id "", .id "log"]

theorem lookalikes_are_told_apart :
    (lookalikes.filterMap Draw.family?).length < UInt64.size ∧
      let ids := IdClock.ids (new .epoch 0) lookalikes
      ids = ["log-2-1", "log-2", "log-2--3", "-4", "log-5"] ∧
        ids.length = (lookalikes.filterMap Draw.family?).length ∧ ids.Nodup ∧
        ∀ i (hi : i < ids.length), behindDash ids[i] = Text.digits (i + 1) := by
  have hfew : (lookalikes.filterMap Draw.family?).length < UInt64.size := by decide
  exact ⟨hfew, rfl, sequential_identities_never_repeat .epoch 0 lookalikes hfew⟩

end SequentialClock

end Gradebook
