import Gradebook.Proofs.Ledger.Portrait

/-!
# Auditing a student against the rewards

The balance of a student is covered by the stamps awarded, and each penalty has its homework, in
order.  A step of a command can break this between a change to the student and its reward, so what
is preserved is the audit over a whole command.
-/

namespace Gradebook

/-- The exact sum of counts. -/
def Count.total (counts : List Count) : Nat :=
  counts.foldr (fun n sum => n.val + sum) 0

theorem Count.total_append (counts more : List Count) :
    total (counts ++ more) = total counts + total more := by
  induction counts with
  | nil => exact (Nat.zero_add _).symm
  | cons n counts ih =>
    change n.val + total (counts ++ more) = n.val + total counts + total more
    rw [ih, Nat.add_assoc]

/-- The values of the awards of a kind to a student, in order. -/
def Ledgers.rewardValues (l : Ledgers) (id : StudentId) (kind : RewardKind) : List Count :=
  ((l.rewardsOf id).filter (·.kind = kind)).map (·.value)

/-- The ranges of a student's homework in a unit, in order. -/
def Student.rangesIn (s : Student) (unit : String) : List String :=
  (s.homework.filter (·.unit = unit)).map (·.range)

/-- Ledgers that account for a student: no stamps without awards, and no penalty without its
homework. -/
structure Ledgers.AccountsFor (l : Ledgers) (s : Student) : Prop where
  stamps : s.stamps.val ≤ Count.total (l.rewardValues s.id .stamp)
  penalties : ((l.rewardValues s.id .penalty).map fun v => s!"{v} sheets").Sublist
    (s.rangesIn "penalty")

def Sketch.rangesIn (s : Sketch) (unit : String) : List String :=
  (s.homework.filter (·.1 = unit)).map (·.2.1)

def Portrait.rewardValues (p : Portrait) (kind : RewardKind) : List Count :=
  (p.awards.filter (·.1 = kind)).map (·.2.1)

theorem Student.rangesIn_sketch (s : Student) (unit : String) :
    s.sketch.rangesIn unit = s.rangesIn unit := by
  rw [Sketch.rangesIn, sketch, List.filter_map, List.map_map]
  rfl

theorem Ledgers.rewardValues_portrait (l : Ledgers) (id : StudentId) (kind : RewardKind) :
    (l.portrait id).rewardValues kind = l.rewardValues id kind := by
  rw [Portrait.rewardValues, portrait, List.filter_map, List.map_map]
  rfl

theorem Sketch.rangesIn_complete (s : Sketch) (place : Nat) (unit : String) :
    (s.complete place).rangesIn unit = s.rangesIn unit := by
  have hitems : ∀ (items : List (String × String × Bool)) (place : Nat)
      (change : String × String × Bool → String × String × Bool),
      (∀ item, (change item).1 = item.1 ∧ (change item).2.1 = item.2.1) →
        ((items.modify place change).filter (·.1 = unit)).map (·.2.1) =
          (items.filter (·.1 = unit)).map (·.2.1) := by
    intro items place change hchange
    induction items generalizing place with
    | nil => rw [List.modify_nil]
    | cons item items ih =>
      by_cases hunit : item.1 = unit
      · cases place with
        | zero => simp [hunit, hchange item]
        | succ place => simp [hunit, ih]
      · cases place with
        | zero => simp [hunit, hchange item]
        | succ place => simp [hunit, ih]
  apply hitems
  intro item
  exact ⟨rfl, rfl⟩

theorem Sketch.rangesIn_assign (s : Sketch) (unit range : String) (other : String) :
    rangesIn { s with homework := s.homework ++ [(unit, range, false)] } other =
      s.rangesIn other ++ if unit = other then [range] else [] := by
  unfold rangesIn
  rw [List.filter_append, List.map_append]
  by_cases h : unit = other
  · simp [h]
  · simp [h]

theorem Portrait.rewardValues_append (p : Portrait) (kind other : RewardKind) (value : Count)
    (reason : Option String) :
    rewardValues { p with awards := p.awards ++ [(kind, value, reason)] } other =
      p.rewardValues other ++ if kind = other then [value] else [] := by
  unfold rewardValues
  rw [List.filter_append, List.map_append]
  by_cases h : kind = other
  · simp [h]
  · simp [h]

namespace Portrait

/-- The awards cover the balance and bring penalties only for homework; where there is no student
there are none. -/
structure Audited (p : Portrait) : Prop where
  missing : p.student = none → p.awards = []
  stamps : ∀ {s : Sketch}, p.student = some s →
    s.stamps.val ≤ Count.total (p.rewardValues .stamp)
  penalties : ∀ {s : Sketch}, p.student = some s →
    ((p.rewardValues .penalty).map Command.penaltyRange).Sublist (s.rangesIn Command.penaltyUnit)

theorem Audited.add {p : Portrait} (h : p.Audited) (hnew : p.student = none) (name : String) :
    Audited { p with student := some (.new name) } where
  missing := nofun
  stamps := by
    rintro s ⟨⟩
    exact Nat.zero_le _
  penalties := by
    rintro s ⟨⟩
    rw [rewardValues, h.missing hnew]
    exact List.Sublist.refl []

/-- A change that raises no balance and takes no range away leaves the audit as it is. -/
theorem Audited.change {p : Portrait} (h : p.Audited) {f : Sketch → Sketch}
    (hstamps : ∀ s : Sketch, (f s).stamps.val ≤ s.stamps.val)
    (hranges : ∀ s : Sketch, (s.rangesIn Command.penaltyUnit).Sublist
      ((f s).rangesIn Command.penaltyUnit)) : (p.change f).Audited where
  missing hnone := h.missing (Option.map_eq_none_iff.1 hnone)
  stamps := by
    intro s hs
    obtain ⟨t, ht, rfl⟩ := Option.map_eq_some_iff.1 hs
    exact Nat.le_trans (hstamps t) (h.stamps ht)
  penalties := by
    intro s hs
    obtain ⟨t, ht, rfl⟩ := Option.map_eq_some_iff.1 hs
    exact (h.penalties ht).trans (hranges t)

theorem Audited.complete {p : Portrait} (h : p.Audited) (place : Nat) :
    (p.change (·.complete place)).Audited := by
  apply h.change
  · intro s
    exact Nat.le_refl _
  · intro s
    have hsame := s.rangesIn_complete place Command.penaltyUnit
    exact hsame.symm ▸ List.Sublist.refl (s.rangesIn Command.penaltyUnit)

theorem Audited.reset {p : Portrait} (h : p.Audited) :
    (p.change fun s => { s with stamps := .zero }).Audited := by
  apply h.change
  · intro s
    exact Nat.zero_le _
  · intro s
    exact List.Sublist.refl _

theorem audited_of_student {p : Portrait} {s : Sketch} (hs : p.student = some s)
    (hstamps : s.stamps.val ≤ Count.total (p.rewardValues .stamp))
    (hpenalties : ((p.rewardValues .penalty).map Command.penaltyRange).Sublist
      (s.rangesIn Command.penaltyUnit)) : p.Audited where
  missing hnone := by
    rw [hs] at hnone
    cases hnone
  stamps ht := Option.some.inj (hs.symm.trans ht) ▸ hstamps
  penalties ht := Option.some.inj (hs.symm.trans ht) ▸ hpenalties

/-- Stamps are awarded for all that is added to the balance, which may be held at its end. -/
theorem Audited.award {p : Portrait} (h : p.Audited) {s : Sketch} (hs : p.student = some s)
    (n : Count) : ((p.act (.adjustStamps n.val)).act (.recordReward .stamp n)).Audited := by
  refine audited_of_student (s := { s with stamps := s.stamps.adjust n.val }) ?_ ?_ ?_
  · simp only [act, Portrait.change, hs, Option.map_some]
  · have hbalance := h.stamps hs
    simp only [act, rewardValues_append, if_true, Count.total_append]
    change min ((s.stamps.val : Int) + n.val).toNat maxCount ≤
      Count.total (p.rewardValues .stamp) + (n.val + 0)
    omega
  · have hpenalties := h.penalties hs
    simp only [act, rewardValues_append]
    rw [if_neg (by decide), List.append_nil]
    exact hpenalties

/-- A penalty comes with its homework, which is the last of both lists. -/
theorem Audited.penalize {p : Portrait} (h : p.Audited) {s : Sketch} (hs : p.student = some s)
    (n : Count) :
    ((p.act (.assignHomework Command.penaltyUnit (Command.penaltyRange n))).act
      (.recordReward .penalty n)).Audited := by
  refine audited_of_student (s := { s with
    homework := s.homework ++ [(Command.penaltyUnit, Command.penaltyRange n, false)] }) ?_ ?_ ?_
  · simp only [act, Portrait.change, hs, Option.map_some]
  · simp only [act, rewardValues_append]
    rw [if_neg (by decide), List.append_nil]
    exact h.stamps hs
  · simp only [act, rewardValues_append, Sketch.rangesIn_assign, if_true, List.map_append]
    exact (h.penalties hs).append (List.Sublist.refl _)

theorem Audited.carryOut {p : Portrait} (h : p.Audited) (hs : p.student.isSome) (c : Command) :
    (c.actions.foldl .act p).Audited := by
  cases c with
  | recordGrade unit question status =>
    apply h.change
    · intro s
      exact Nat.le_refl _
    · intro s
      exact List.Sublist.refl _
  | assignHomework unit range =>
    apply h.change
    · intro s
      exact Nat.le_refl _
    · intro s
      rw [Sketch.rangesIn_assign]
      exact List.sublist_append_left _ _
  | addStamps n =>
    obtain ⟨s, hstudent⟩ := Option.isSome_iff_exists.1 hs
    exact h.award hstudent n
  | removeStamps n =>
    apply h.change
    · intro s
      change min ((s.stamps.val : Int) + -n.val).toNat maxCount ≤ s.stamps.val
      omega
    · intro s
      exact List.Sublist.refl _
  | penalty n =>
    obtain ⟨s, hstudent⟩ := Option.isSome_iff_exists.1 hs
    exact h.penalize hstudent n
  | ignored => exact h

end Portrait

end Gradebook
