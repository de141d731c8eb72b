import Gradebook.Text.Case

/-!
# Small letters in their surroundings

A text inside another one is brought to small letters as it is alone, but for its capital sigmas: the
small form of a sigma depends on whether it ends a word, and with that on what stands around it.
-/

namespace Gradebook.Text

/-- The small letters of a text between two others, of which the first is given from its end. -/
def lowerBetween (before after : List Char) : List Char → List Char
  | [] => []
  | c :: rest =>
    (if c = 'Σ' then [sigmaBetween before (rest ++ after)] else lowerOf c) ++
      lowerBetween (c :: before) after rest

theorem lowerFrom_append (before s after : List Char) :
    lowerFrom before (s ++ after) =
      lowerBetween before after s ++ lowerFrom (s.reverse ++ before) after := by
  induction s generalizing before with
  | nil => rfl
  | cons c s ih =>
    have hreverse : (c :: s).reverse ++ before = s.reverse ++ c :: before := by
      rw [List.reverse_cons, List.append_assoc, List.singleton_append]
    rw [List.cons_append, lowerFrom, lowerBetween, ih, hreverse, List.append_assoc]

theorem lowerBetween_nil (before s : List Char) : lowerBetween before [] s = lowerFrom before s := by
  have hsplit := lowerFrom_append before s []
  rw [List.append_nil, lowerFrom, List.append_nil] at hsplit
  exact hsplit.symm

/-- Only the forms of capital sigmas depend on the surroundings. -/
theorem lowerBetween_congr {s before other after following : List Char}
    (h : ∀ left right, s = left ++ 'Σ' :: right →
      sigmaBetween (left.reverse ++ before) (right ++ after) =
        sigmaBetween (left.reverse ++ other) (right ++ following)) :
    lowerBetween before after s = lowerBetween other following s := by
  induction s generalizing before other with
  | nil => rfl
  | cons c s ih =>
    have hrest : lowerBetween (c :: before) after s = lowerBetween (c :: other) following s := by
      apply ih
      intro left right hs
      have hsigma := h (c :: left) right (congrArg (c :: ·) hs)
      simpa only [List.reverse_cons, List.append_assoc, List.singleton_append] using hsigma
    rw [lowerBetween, lowerBetween, hrest]
    by_cases hc : c = 'Σ'
    · subst hc
      have hsigma := h [] s rfl
      rw [List.reverse_nil, List.nil_append, List.nil_append] at hsigma
      rw [if_pos rfl, if_pos rfl, hsigma]
    · rw [if_neg hc, if_neg hc]

/-- Between two texts a word ends: the last character of the first that casing does not look through
is cased, and the first such character of the second is not. -/
def EndsWord (before after : List Char) : Prop :=
  meetsCased before.reverse = true ∧ meetsCased after = false

theorem sigmaBetween_eq_iff {before after other following : List Char} :
    sigmaBetween before.reverse after = sigmaBetween other.reverse following ↔
      (EndsWord before after ↔ EndsWord other following) := by
  unfold sigmaBetween EndsWord
  cases meetsCased before.reverse <;> cases meetsCased after <;>
    cases meetsCased other.reverse <;> cases meetsCased following <;> decide

/-- Each capital sigma of a text ends a word between two other texts exactly if it does so where the
text stands alone. -/
def SigmasStay (before s after : List Char) : Prop :=
  ∀ left right, s = left ++ 'Σ' :: right →
    (EndsWord (before ++ left) (right ++ after) ↔ EndsWord left right)

theorem SigmasStay.lowerBetween_eq {before s after : List Char} (h : SigmasStay before s after) :
    lowerBetween before.reverse after s = lowerFrom [] s := by
  rw [← lowerBetween_nil]
  apply lowerBetween_congr
  intro left right hs
  have hsigma := sigmaBetween_eq_iff.2 (h left right hs)
  simpa only [List.reverse_append, List.append_nil] using hsigma

theorem SigmasStay.lower_eq {before s after : List Char} (h : SigmasStay before s after) :
    ∃ start rest, lowerFrom [] (before ++ s ++ after) = start ++ lowerFrom [] s ++ rest := by
  refine ⟨lowerBetween [] (s ++ after) before, lowerFrom (s.reverse ++ before.reverse) after, ?_⟩
  rw [List.append_assoc, lowerFrom_append, List.append_nil, lowerFrom_append, h.lowerBetween_eq,
    List.append_assoc]

end Gradebook.Text
