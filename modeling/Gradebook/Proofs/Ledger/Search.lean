import Gradebook.Ledger.Views
import Gradebook.Proofs.Text.Case

/-!
# Finding students by name

A search keeps the order of the roster.  It finds every student whose name holds the trimmed query as
it is typed, where each capital sigma of the query ends a word in the name exactly if it does so in
the query; a capital sigma that ends a word in one of them alone hides the student.
-/

namespace Gradebook

theorem Roster.search_eq (r : Roster) (query : String) :
    r.search query = r.filter fun s =>
      Text.occursIn (Text.lowerFrom [] (Text.trim query).toList)
        (Text.lowerFrom [] s.name.toList) := by
  unfold Roster.search Text.lower
  simp only [String.toList_ofList]

/-- The name holds the trimmed query as it is typed. -/
def Student.NameHolds (s : Student) (query : String) : Prop :=
  ∃ before after, s.name.toList = before ++ (Text.trim query).toList ++ after

/-- The name holds the trimmed query as it is typed, at a place where each capital sigma of the query
ends a word exactly if it does so in the query alone. -/
def Student.NameHoldsAlike (s : Student) (query : String) : Prop :=
  ∃ before after, s.name.toList = before ++ (Text.trim query).toList ++ after ∧
    Text.SigmasStay before (Text.trim query).toList after

theorem Student.NameHolds.alike {s : Student} {query : String} (h : s.NameHolds query)
    (hsigma : 'Σ' ∉ (Text.trim query).toList) : s.NameHoldsAlike query := by
  obtain ⟨before, after, hname⟩ := h
  refine ⟨before, after, hname, ?_⟩
  intro left right hquery
  rw [hquery] at hsigma
  exact absurd (List.mem_append_right left List.mem_cons_self) hsigma

theorem Student.NameHoldsAlike.occursIn {s : Student} {query : String}
    (h : s.NameHoldsAlike query) :
    Text.occursIn (Text.lowerFrom [] (Text.trim query).toList)
      (Text.lowerFrom [] s.name.toList) = true := by
  obtain ⟨before, after, hname, hsigmas⟩ := h
  rw [Text.occursIn_iff, hname]
  exact hsigmas.lower_eq

/-- Students in the order of the roster, with each that a query is to find as often as on it. -/
structure Roster.Finds (r : Roster) (query : String) (found : List Student) : Prop where
  in_order : found.Sublist r
  complete : ∀ s : Student, s.NameHoldsAlike query → found.count s = r.count s
  plain : 'Σ' ∉ (Text.trim query).toList →
    ∀ s : Student, s.NameHolds query → found.count s = r.count s
  all : Text.trim query = "" → found = r

/-- A search finds every student whose name holds the trimmed query as it is typed, but for capital
sigmas that end a word in the query or in the name alone. -/
theorem search_finds_matches (r : Roster) (query : String) : r.Finds query (r.search query) := by
  have hcount : ∀ s : Student, s.NameHoldsAlike query → (r.search query).count s = r.count s := by
    intro s hs
    rw [r.search_eq]
    exact List.count_filter hs.occursIn
  refine ⟨List.filter_sublist, hcount, ?_, ?_⟩
  · intro hsigma s hs
    exact hcount s (hs.alike hsigma)
  · intro hquery
    have hempty : ∀ s : Student, s.NameHoldsAlike query := by
      intro s
      refine ⟨[], s.name.toList, ?_, ?_⟩
      · rw [hquery]
        rfl
      · intro left right hsplit
        rw [hquery] at hsplit
        cases left <;> cases hsplit
    rw [r.search_eq, List.filter_eq_self]
    intro s _
    exact (hempty s).occursIn

/-- The sigma of the query ends a word in the name too. -/
theorem search_finds_word_with_last_sigma :
    let s : Student := .new "student-1" "ΑΣ ΑΣΑ"
    s.NameHoldsAlike " ΑΣ " ∧ (Roster.search [s, s] " ΑΣ ").count s = 2 := by
  intro s
  have hquery : (Text.trim " ΑΣ ").toList = ['Α', 'Σ'] := by decide +kernel
  have halike : s.NameHoldsAlike " ΑΣ " := by
    refine ⟨[], [' ', 'Α', 'Σ', 'Α'], by rw [hquery]; decide +kernel, ?_⟩
    intro left right hsplit
    rw [hquery] at hsplit
    have hplace : ['Α'] = left ∧ [] = right := by
      rcases left with _ | ⟨a, _ | ⟨b, left⟩⟩
      · simp at hsplit
      · simpa using hsplit
      · simp at hsplit
    rw [← hplace.1, ← hplace.2]
    unfold Text.EndsWord
    decide +kernel
  refine ⟨halike, ?_⟩
  rw [(search_finds_matches [s, s] " ΑΣ ").complete s halike]
  decide

/-- The sigma ends a word in the query, but not in the name. -/
theorem last_sigma_of_query_hides_student :
    let s : Student := .new "student-1" "ΟΔΥΣΣΕΥΣ"
    s.NameHolds "ΟΔΥΣ" ∧ Roster.search [s] "ΟΔΥΣ" = [] ∧
      ¬ ∀ t : Student, t.NameHolds "ΟΔΥΣ" → (Roster.search [s] "ΟΔΥΣ").count t = [s].count t := by
  intro s
  have hquery : (Text.trim "ΟΔΥΣ").toList = ['Ο', 'Δ', 'Υ', 'Σ'] := by decide +kernel
  have hholds : s.NameHolds "ΟΔΥΣ" := ⟨[], ['Σ', 'Ε', 'Υ', 'Σ'], by rw [hquery]; decide +kernel⟩
  have hnone : Roster.search [s] "ΟΔΥΣ" = [] := by decide +kernel
  refine ⟨hholds, hnone, ?_⟩
  intro hall
  have hcount := hall s hholds
  rw [hnone] at hcount
  simp at hcount

end Gradebook
