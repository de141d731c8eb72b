import Gradebook.Clock
import Gradebook.Proofs.Text.Decimal

/-!
# Drawing from a clock

The identities that a clock yields over a run of draws.  The sequential clock ends each identity in
its number, so it repeats none until its counter wraps.
-/

namespace Gradebook

/-- A draw from a clock: an identity for a family of records, or the time. -/
inductive Draw where
  | id (family : String)
  | time

namespace IdClock

variable {κ : Type} [IdClock κ]

def after (k : κ) : List Draw → κ
  | [] => k
  | .id family :: rest => after (newId k family).2 rest
  | .time :: rest => after (now k).2 rest

def ids (k : κ) : List Draw → List String
  | [] => []
  | .id family :: rest => (newId k family).1 :: ids (newId k family).2 rest
  | .time :: rest => ids (now k).2 rest

/-- The first identities drawn from a clock, up to a number of them, are all different. -/
def DrawsDistinct (k : κ) (n : Nat) : Prop :=
  ∀ draws, (ids k draws).length ≤ n → (ids k draws).Nodup

theorem after_append (draws more : List Draw) (k : κ) :
    after k (draws ++ more) = after (after k draws) more := by
  induction draws generalizing k with
  | nil => rfl
  | cons d draws ih =>
    cases d with
    | id family => exact ih _
    | time => exact ih _

theorem ids_append (draws more : List Draw) (k : κ) :
    ids k (draws ++ more) = ids k draws ++ ids (after k draws) more := by
  induction draws generalizing k with
  | nil => rfl
  | cons d draws ih =>
    cases d with
    | id family => exact congrArg _ (ih _)
    | time => exact ih _

theorem DrawsDistinct.fresh {k : κ} {n : Nat} (h : DrawsDistinct k n) {draws : List Draw}
    (hn : (ids k draws).length < n) (family : String) :
    (newId (after k draws) family).1 ∉ ids k draws := by
  have hids : ids k (draws ++ [.id family]) =
      ids k draws ++ [(newId (after k draws) family).1] := by
    rw [ids_append]
    rfl
  have hlength : (ids k (draws ++ [.id family])).length ≤ n := by
    rw [hids, List.length_append, List.length_singleton]
    exact hn
  have hnodup := h _ hlength
  rw [hids, List.nodup_append] at hnodup
  intro hmem
  exact hnodup.2.2 _ hmem _ (List.mem_singleton_self _) rfl

end IdClock

theorem number_of_append_dash {s t : List Char} {m n : Nat}
    (h : s ++ '-' :: Text.digits m = t ++ '-' :: Text.digits n) : m = n := by
  -- read from the end, the dash is the first character that is no digit
  have hrun : ∀ (u : List Char) (k : Nat),
      (u ++ '-' :: Text.digits k).reverse.takeWhile Char.isDigit = (Text.digits k).reverse := by
    intro u k
    rw [List.reverse_append, List.reverse_cons, List.append_assoc]
    apply Text.takeWhile_append_of_ends
    · intro c hc
      exact Text.isDigit_of_mem_digits (List.mem_reverse.1 hc)
    · intro c hc
      cases hc
      decide
  have hdigits : Text.digits m = Text.digits n := by
    rw [← List.reverse_inj, ← hrun s m, ← hrun t n, h]
  rw [← Text.digitsValue_digits m, ← Text.digitsValue_digits n, hdigits]

namespace SequentialClock

def numbered (family : String) (n : Nat) : String :=
  s!"{family}-{n}"

theorem toList_numbered (family : String) (n : Nat) :
    (numbered family n).toList = family.toList ++ '-' :: Text.digits n := by
  simp only [numbered, String.toList_append, List.append_assoc]
  rw [show (toString n).toList = Text.digits n from String.toList_ofList]
  rfl

theorem numbered_inj {f g : String} {m n : Nat} (h : numbered f m = numbered g n) : m = n := by
  have hlist := congrArg String.toList h
  rw [toList_numbered, toList_numbered] at hlist
  exact number_of_append_dash hlist

theorem newId_eq (c : SequentialClock) (family : String) :
    IdClock.newId c family =
      (numbered family (c.drawn + 1).toNat, { c with drawn := c.drawn + 1 }) := rfl

theorem drawn_succ {c : SequentialClock} (h : c.drawn.toNat + 1 < UInt64.size) :
    (c.drawn + 1).toNat = c.drawn.toNat + 1 := by
  rw [UInt64.toNat_add, UInt64.toNat_one]
  exact Nat.mod_eq_of_lt h

theorem mem_ids {draws : List Draw} {c : SequentialClock} {id : String}
    (hwrap : c.drawn.toNat + (IdClock.ids c draws).length < UInt64.size)
    (h : id ∈ IdClock.ids c draws) : ∃ family n, id = numbered family n ∧ c.drawn.toNat < n := by
  induction draws generalizing c with
  | nil => cases h
  | cons d draws ih =>
    cases d with
    | time => exact ih (c := (IdClock.now c).2) hwrap h
    | id family =>
      simp only [IdClock.ids, newId_eq, List.length_cons] at hwrap h
      have hnext := drawn_succ (c := c) (by omega)
      rcases List.mem_cons.1 h with rfl | hrest
      · exact ⟨family, _, rfl, by omega⟩
      · have hbound : (c.drawn + 1).toNat + (IdClock.ids { c with drawn := c.drawn + 1 }
            draws).length < UInt64.size := by omega
        obtain ⟨f, n, hid, hn⟩ := ih hbound hrest
        exact ⟨f, n, hid, by simp only at hn; omega⟩

/-- The sequential clock repeats no identity until its counter wraps. -/
theorem drawsDistinct {c : SequentialClock} {n : Nat} (h : c.drawn.toNat + n < UInt64.size) :
    IdClock.DrawsDistinct c n := by
  intro draws hn
  have hwrap : c.drawn.toNat + (IdClock.ids c draws).length < UInt64.size := by omega
  clear hn h
  induction draws generalizing c with
  | nil => exact List.nodup_nil
  | cons d draws ih =>
    cases d with
    | time => exact ih (c := (IdClock.now c).2) hwrap
    | id family =>
      simp only [IdClock.ids, newId_eq, List.length_cons] at hwrap ⊢
      have hnext := drawn_succ (c := c) (by omega)
      have hbound : (c.drawn + 1).toNat + (IdClock.ids { c with drawn := c.drawn + 1 }
          draws).length < UInt64.size := by omega
      rw [List.nodup_cons]
      -- later identities have greater numbers
      refine ⟨?_, ih hbound⟩
      intro hmem
      obtain ⟨f, m, hid, hm⟩ := mem_ids hbound hmem
      have heq := numbered_inj hid
      simp only at hm
      omega

end SequentialClock

end Gradebook
