import Gradebook.Proofs.Command.Grammar
import Gradebook.Proofs.Text.Capitals

/-!
# Spellings of a status

The texts that name a status, one by one: its sign in either case, or the word for the third status
with each letter in either case, of which the fifth may also be the small i without a dot.  No other
character and no ligature has these capitals.
-/

namespace Gradebook

open Text (IsCapitalWord lettersOf)

namespace Status

/-- The characters that may stand in each place of the word for the third status. -/
def wordLetters : List (List Char) :=
  [['P', 'p'], ['A', 'a'], ['R', 'r'], ['T', 't'], ['I', 'i', 'ı'], ['A', 'a'], ['L', 'l']]

/-- The token spells the status. -/
def IsSpelledBy (token : String) : Status → Prop
  | correct => token = "O" ∨ token = "o"
  | incorrect => token = "X" ∨ token = "x"
  | partly => token = "△" ∨ List.Forall₂ (· ∈ ·) token.toList wordLetters

theorem isCapitalWord_symbol (status : Status) : IsCapitalWord status.symbol.toList := by
  cases status <;> decide +kernel

theorem isCapitalWord_partial : IsCapitalWord "PARTIAL".toList := by
  decide +kernel

/-- The letters of a sign or of the word, found in the case table. -/
theorem map_lettersOf :
    "O".toList.map lettersOf = [['O', 'o']] ∧ "X".toList.map lettersOf = [['X', 'x']] ∧
      "△".toList.map lettersOf = [['△']] ∧ "PARTIAL".toList.map lettersOf = wordLetters := by
  decide +kernel

theorem upper_eq_iff {word : String} (h : IsCapitalWord word.toList) (token : String) :
    Text.upper token = word ↔
      List.Forall₂ (· ∈ ·) token.toList (word.toList.map lettersOf) := by
  rw [h.upper_eq_iff, List.forall₂_map_right_iff]

theorem forall₂_singleton_iff {token : String} {letters : List Char} :
    List.Forall₂ (· ∈ ·) token.toList [letters] ↔ ∃ c ∈ letters, token = String.ofList [c] := by
  rw [List.forall₂_cons_right_iff]
  constructor
  · rintro ⟨c, rest, hc, hrest, htoken⟩
    rw [List.forall₂_nil_right_iff.1 hrest] at htoken
    exact ⟨c, hc, by rw [← htoken, String.ofList_toList]⟩
  · rintro ⟨c, hc, rfl⟩
    exact ⟨c, [], hc, .nil, String.toList_ofList⟩

theorem names_iff {token : String} {status : Status} :
    status.Names token ↔ status.IsSpelledBy token := by
  obtain ⟨hO, hX, hsign, hword⟩ := map_lettersOf
  unfold Names
  rw [upper_eq_iff (isCapitalWord_symbol status), upper_eq_iff isCapitalWord_partial, hword]
  cases status with
  | correct =>
    simp only [symbol, hO, forall₂_singleton_iff, IsSpelledBy]
    simp
  | incorrect =>
    simp only [symbol, hX, forall₂_singleton_iff, IsSpelledBy]
    simp
  | partly =>
    simp only [symbol, hsign, forall₂_singleton_iff, IsSpelledBy]
    simp

/-- A token names the status that it spells, and none if it spells none. -/
theorem token_names_what_it_spells (token : String) :
    (∀ status, ofToken? token = some status ↔ status.IsSpelledBy token) ∧
      (ofToken? token = none ↔ ∀ status : Status, ¬ status.IsSpelledBy token) := by
  have hsome : ∀ status, ofToken? token = some status ↔ status.IsSpelledBy token := by
    intro status
    rw [ofToken?_eq_some_iff, names_iff]
  refine ⟨hsome, ?_⟩
  rw [Option.eq_none_iff_forall_ne_some]
  exact forall_congr' fun status => not_congr (hsome status)

end Status

end Gradebook
