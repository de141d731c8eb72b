import Mathlib.Data.List.Induction
import Gradebook.Proofs.Ledger.Stamps
import Gradebook.Proofs.Workbook.Alone

/-!
# The balance after a run

The balance of a student is that of the changes by stamp commands since the student was added or the
balance was last reset.  What a removal takes past zero is forgotten, so the balance is the greatest
sum of the last changes, as long as no sum of consecutive changes passes the greatest count.
-/

namespace Gradebook

def balanceOf (changes : List Int) : Count :=
  changes.foldl .adjust .zero

def sumOf (changes : List Int) : Int :=
  changes.foldr (· + ·) 0

theorem sumOf_concat (changes : List Int) (delta : Int) :
    sumOf (changes ++ [delta]) = sumOf changes + delta := by
  unfold sumOf
  induction changes with
  | nil => exact Int.add_comm delta 0
  | cons first changes ih =>
    rw [List.cons_append, List.foldr_cons, ih, List.foldr_cons, Int.add_assoc]

/-- No sum of consecutive changes passes the greatest count. -/
def SumsFit (changes : List Int) : Prop :=
  ∀ j ≤ changes.length, ∀ i ≤ j, sumOf ((changes.take j).drop i) ≤ maxCount

instance (changes : List Int) : Decidable (SumsFit changes) :=
  inferInstanceAs (Decidable (∀ j ≤ changes.length, ∀ i ≤ j, _ ≤ _))

theorem SumsFit.left {changes more : List Int} (h : SumsFit (changes ++ more)) :
    SumsFit changes := by
  intro j hj i hi
  have hlength : j ≤ (changes ++ more).length := by
    rw [List.length_append]
    omega
  have hsum := h j hlength i hi
  rwa [List.take_append_of_le_length hj] at hsum

theorem SumsFit.tail {changes : List Int} (h : SumsFit changes) {k : Nat}
    (hk : k ≤ changes.length) : sumOf (changes.drop k) ≤ maxCount := by
  have hsum := h changes.length (Nat.le_refl _) k hk
  rwa [List.take_length] at hsum

/-- A balance that is the greatest sum of the last changes, of which there may also be none. -/
structure IsGreatestTail (changes : List Int) (balance : Int) : Prop where
  attained : ∃ k ≤ changes.length, balance = sumOf (changes.drop k)
  greatest : ∀ k ≤ changes.length, sumOf (changes.drop k) ≤ balance

theorem IsGreatestTail.adjust {changes : List Int} {n : Count}
    (h : IsGreatestTail changes n.val) {delta : Int} (hfit : SumsFit (changes ++ [delta])) :
    IsGreatestTail (changes ++ [delta]) (n.adjust delta).val := by
  have hlength : (changes ++ [delta]).length = changes.length + 1 := by
    rw [List.length_append, List.length_singleton]
  have hsum : ∀ k ≤ changes.length, sumOf ((changes ++ [delta]).drop k) =
      sumOf (changes.drop k) + delta := by
    intro k hk
    rw [List.drop_append_of_le_length hk, sumOf_concat]
  have hempty : sumOf ((changes ++ [delta]).drop (changes.length + 1)) = 0 := by
    rw [← hlength, List.drop_length]
    rfl
  obtain ⟨k, hk, hbalance⟩ := h.attained
  -- the sum with the change is one of consecutive changes, so only the floor holds it
  have htop := hfit.tail (k := k) (by omega)
  rw [hsum k hk, ← hbalance] at htop
  have hadjust := n.val_adjust delta
  constructor
  · by_cases hneg : n.val + delta < 0
    · exact ⟨changes.length + 1, by omega, by omega⟩
    · refine ⟨k, by omega, ?_⟩
      rw [hsum k hk, ← hbalance]
      omega
  · intro i hi
    by_cases hlast : i ≤ changes.length
    · have hle := h.greatest i hlast
      rw [hsum i hlast]
      omega
    · have hi' : i = changes.length + 1 := by omega
      rw [hi', hempty]
      omega

theorem isGreatestTail_balanceOf {changes : List Int} (h : SumsFit changes) :
    IsGreatestTail changes (balanceOf changes).val := by
  induction changes using List.reverseRecOn with
  | nil =>
    refine ⟨⟨0, Nat.le_refl _, rfl⟩, ?_⟩
    intro k _
    rw [List.drop_nil]
    exact Int.le_refl _
  | append_singleton changes delta ih =>
    unfold balanceOf
    rw [List.foldl_append]
    exact (ih h.left).adjust h

/-- The change of the balance that a command makes. -/
def Command.stampChange? : Command → Option Int
  | addStamps n => some n.val
  | removeStamps n => some (-n.val)
  | recordGrade .. | assignHomework .. | penalty _ | ignored => none

/-- The changes since the student was added or the balance was last reset, after another dealing. -/
def Dealing.changes (since : List Int) : Dealing → List Int
  | .add _ | .reset => []
  | .command input =>
    match Command.parse input with
    | .ok c => since ++ c.stampChange?.toList
    | .error _ => since
  | .select | .complete _ => since

def Portrait.HasBalance (p : Portrait) (n : Count) : Prop :=
  ∀ s, p.student = some s → s.stamps = n

theorem Portrait.stamps_foldl_act {p : Portrait} {s t : Sketch} {c : Command}
    (hs : p.student = some s) (ht : (c.actions.foldl .act p).student = some t) :
    t.stamps = c.stampChange?.toList.foldl .adjust s.stamps := by
  obtain ⟨student, awards⟩ := p
  cases hs
  cases c <;> cases ht <;> rfl

theorem Portrait.Deals.hasBalance {p next : Portrait} {q : Dealing} {reply : Reply}
    (h : p.Deals q reply next) {since : List Int} (hp : p.HasBalance (balanceOf since)) :
    next.HasBalance (balanceOf (q.changes since)) := by
  intro t ht
  cases h with
  | added hname hnew =>
    cases ht
    rfl
  | selected hs => exact hp t ht
  | rejected hs hparse =>
    rw [Dealing.changes, hparse]
    exact hp t ht
  | carriedOut hs hparse =>
    obtain ⟨s, hs⟩ := Option.isSome_iff_exists.1 hs
    rw [Dealing.changes, hparse, stamps_foldl_act hs ht, hp s hs]
    exact (List.foldl_append).symm
  | completed hs hplace =>
    obtain ⟨s, hs, rfl⟩ := Option.map_eq_some_iff.1 ht
    exact hp s hs
  | reset hs =>
    obtain ⟨s, hs, rfl⟩ := Option.map_eq_some_iff.1 ht
    rfl

namespace Workbook

variable {σ κ : Type} [CollectionStore σ] [IdClock κ]

/-- The changes by stamp commands carried out for a student in a run since the student was added or
the balance was last reset. -/
def stampChanges (w : Workbook σ κ) (id : StudentId) (ops : List Operation) : List Int :=
  ((w.dealings id ops).map Prod.fst).foldl Dealing.changes []

theorem hasBalance_after (ops : List Operation) {w : Workbook σ κ} {id : StudentId}
    {since : List Int} (hselects : w.SelectsStudent)
    (h : (w.desk.ledgers.portrait id).HasBalance (balanceOf since)) :
    ((w.after ops).desk.ledgers.portrait id).HasBalance
      (balanceOf (((w.dealings id ops).map Prod.fst).foldl Dealing.changes since)) := by
  induction ops generalizing w since with
  | nil => exact h
  | cons o ops ih =>
    rw [after_cons]
    cases hdealing : w.desk.dealing? w.current id o with
    | none =>
      have hnone := Desk.not_isDealing_of_dealing? hdealing
      simp only [dealings, hdealing]
      apply ih (hselects.perform o)
      rw [ledgers_perform, (w.desk.effect_change w.current o).portrait hnone]
      exact h
    | some q =>
      have hdeals := (Desk.isDealing_of_dealing? hdealing).deals (hselects id)
      simp only [dealings, hdealing, List.map_cons, List.foldl_cons]
      apply ih (hselects.perform o)
      rw [ledgers_perform]
      exact hdeals.hasBalance h

end Workbook

/-- Over an empty store, after a run without repeated identities, let the sums of consecutive
changes of a student's balance stay within the counts.  Then the balance is the greatest sum of the
last changes: what was removed past zero is no debt. -/
theorem balance_is_greatest_tail {σ κ : Type} [CollectionStore σ] [IdClock κ] {store : σ}
    (hstore : ∀ c, CollectionStore.load store c = .ok []) (clock : κ) (tally : Tally) :
    ∃ w, Workbook.open store clock tally = .ok w ∧
      ∀ ops, w.DrawsEachOnce ops → ∀ s ∈ (w.after ops).roster,
        SumsFit (w.stampChanges s.id ops) →
          IsGreatestTail (w.stampChanges s.id ops) s.stamps.val := by
  obtain ⟨counted, hopen⟩ := Workbook.open_empty hstore clock tally
  refine ⟨_, hopen, ?_⟩
  intro ops hdraws s hs hfit
  have hnamed := Workbook.named_after ops (w := ⟨⟨.empty, clock, counted⟩, store, none⟩) .empty
  have hget := (Ledgers.identified hnamed hdraws).found s hs
  have hstart : Portrait.HasBalance (Ledgers.portrait .empty s.id) (balanceOf []) := nofun
  have hbalance := Workbook.hasBalance_after ops
    (w := ⟨⟨.empty, clock, counted⟩, store, none⟩) nofun hstart
  have hstamps : s.stamps = balanceOf (Workbook.stampChanges _ s.id ops) :=
    hbalance _ (Ledgers.student_portrait_of_get? hget)
  rw [hstamps]
  exact isGreatestTail_balanceOf hfit

theorem removal_past_zero_is_no_debt :
    let w : Workbook MemoryStore SequentialClock := ⟨⟨.empty, .new .epoch 0, .empty⟩, .empty, none⟩
    let ops : List Operation :=
      [.addStudent "Kim", .addStudent "Lee", .select "student-1", .runCommand "!stamp +3",
        .select "student-2", .runCommand "!stamp +9", .select "student-1", .runCommand "!stamp -5",
        .runCommand "!stamp", .resetStamps "student-2", .runCommand "!stamp +2"]
    w.DrawsEachOnce ops ∧ w.stampChanges "student-1" ops = [3, -5, 2] ∧ SumsFit [3, -5, 2] ∧
      (w.after ops).roster.map (·.stamps.val) = [2, 0] ∧
      ∃ s, (w.after ops).roster.get? "student-1" = some s ∧
        IsGreatestTail [3, -5, 2] s.stamps.val := by
  intro w ops
  have hempty : ∀ c, CollectionStore.load MemoryStore.empty c = .ok [] := fun c => rfl
  have hops : w.DrawsEachOnce ops := by decide
  have hchanges : w.stampChanges "student-1" ops = [3, -5, 2] := by decide
  have hfit : SumsFit [3, -5, 2] := by decide
  obtain ⟨v, hv, hbalance⟩ := balance_is_greatest_tail hempty (SequentialClock.new .epoch 0) .empty
  cases hv
  have hthere : (w.after ops).roster.has "student-1" = true := by decide
  obtain ⟨s, hs⟩ := Option.isSome_iff_exists.1 hthere
  obtain ⟨hmem, hid⟩ := Roster.get?_some hs
  have hgreatest : SumsFit (w.stampChanges s.id ops) →
      IsGreatestTail (w.stampChanges s.id ops) s.stamps.val := hbalance ops hops s hmem
  rw [hid, hchanges] at hgreatest
  exact ⟨hops, hchanges, hfit, by decide, s, hs, hgreatest hfit⟩

end Gradebook
