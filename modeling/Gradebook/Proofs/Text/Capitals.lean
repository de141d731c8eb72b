import Gradebook.Text.Case
import Mathlib.Data.List.Forall2

/-!
# Texts with given capitals

Which texts have a given word as their capitals.  A letter is found from its capital through the runs
of the case table, one candidate a run; a character with several capitals has no place in a word that
lacks one of them.
-/

namespace Gradebook.Text

/-- A capital and the characters that the runs of the case table map to it. -/
def lettersOf (capital : Char) : List Char :=
  capital :: upperRuns.filterMap fun r =>
    let code := (capital.toNat - r.shift : Int).toNat
    if r.covers code then some (Char.ofNat code) else none

/-- The word is made of capitals of single letters, and no character that has several capitals has
all of them in the word. -/
structure IsCapitalWord (word : List Char) : Prop where
  nonzero : '\x00' ∉ word
  capitals : ∀ capital ∈ word, ∀ c ∈ lettersOf capital, upperOf c = [capital]
  expansions : ∀ e ∈ upperExpansions, ∃ code ∈ e.2, Char.ofNat code ∉ word

-- The checks run over the letters of the word; an instance found for "every character" would not.
instance (word : List Char) : Decidable (IsCapitalWord word) :=
  decidable_of_iff
    ('\x00' ∉ word ∧
      (word.all fun capital => (lettersOf capital).all fun c => upperOf c = [capital]) = true ∧
      (upperExpansions.all fun e => e.2.any fun code => Char.ofNat code ∉ word) = true)
    ⟨fun ⟨hnonzero, hcapitals, hexpansions⟩ =>
      ⟨hnonzero, by simpa using hcapitals, by simpa using hexpansions⟩,
     fun h => ⟨h.nonzero, by simpa using h.capitals, by simpa using h.expansions⟩⟩

theorem toNat_of_ofNat_eq {n : Nat} {c : Char} (hc : c ≠ '\x00') (h : Char.ofNat n = c) :
    n = c.toNat := by
  by_cases hvalid : n.isValidChar
  · rw [Char.ofNat, dif_pos hvalid] at h
    rw [← h]
    rfl
  · rw [Char.ofNat, dif_neg hvalid] at h
    exact absurd h.symm hc

theorem mem_lettersOf {c capital : Char} {r : CaseRun} (hzero : capital ≠ '\x00')
    (hr : r ∈ upperRuns) (hcovers : r.covers c.toNat = true)
    (htarget : Char.ofNat (r.target c.toNat) = capital) : c ∈ lettersOf capital := by
  have hcode : r.target c.toNat = capital.toNat := toNat_of_ofNat_eq hzero htarget
  have hpositive : capital.toNat ≠ 0 := fun h => hzero (Char.toNat_inj.1 h)
  have hback : (capital.toNat - r.shift : Int).toNat = c.toNat := by
    unfold CaseRun.target at hcode
    omega
  refine List.mem_cons_of_mem _ (List.mem_filterMap.2 ⟨r, hr, ?_⟩)
  simp only [hback, hcovers, if_true, Char.ofNat_toNat]

/-- A character whose capitals are all in the word has one capital and is one of its letters. -/
theorem IsCapitalWord.exists_capital {word : List Char} (h : IsCapitalWord word) {c : Char}
    (hc : ∀ capital ∈ upperOf c, capital ∈ word) :
    ∃ capital, upperOf c = [capital] ∧ c ∈ lettersOf capital := by
  have hcases : (∃ e ∈ upperExpansions, upperOf c = e.2.map Char.ofNat) ∨
      (∃ r ∈ upperRuns, r.covers c.toNat = true ∧ upperOf c = [Char.ofNat (r.target c.toNat)]) ∨
      upperOf c = [c] := by
    unfold upperOf mapCase
    split
    next codes hcodes =>
      obtain ⟨before, after, hsplit, -⟩ := List.lookup_eq_some_iff.1 hcodes
      have hmem : (c.toNat, codes) ∈ upperExpansions := by
        rw [hsplit]
        exact List.mem_append_right _ List.mem_cons_self
      exact .inl ⟨_, hmem, rfl⟩
    next =>
      split
      next r hr =>
        have hcovers := List.find?_some hr
        exact .inr (.inl ⟨r, List.mem_of_find?_eq_some hr, hcovers, rfl⟩)
      next => exact .inr (.inr rfl)
  obtain ⟨e, he, hupper⟩ | ⟨r, hr, hcovers, hupper⟩ | hupper := hcases
  · obtain ⟨code, hcode, houtside⟩ := h.expansions e he
    refine absurd (hc _ ?_) houtside
    rw [hupper]
    exact List.mem_map_of_mem hcode
  · refine ⟨_, hupper, mem_lettersOf ?_ hr hcovers rfl⟩
    intro hzero
    apply h.nonzero
    apply hc
    rw [hupper, hzero]
    exact List.mem_singleton_self _
  · exact ⟨c, hupper, List.mem_cons_self⟩

/-- The texts with a word as their capitals spell it letter by letter. -/
theorem IsCapitalWord.flatMap_upperOf_eq_iff {word s : List Char} (h : IsCapitalWord word) :
    s.flatMap upperOf = word ↔ List.Forall₂ (fun c capital => c ∈ lettersOf capital) s word := by
  -- the letters stay in the word while the text grows shorter
  suffices hpart : ∀ part, (∀ capital ∈ part, capital ∈ word) →
      (s.flatMap upperOf = part ↔
        List.Forall₂ (fun c capital => c ∈ lettersOf capital) s part) from
    hpart word fun _ hmem => hmem
  induction s with
  | nil =>
    intro part _
    rw [List.flatMap_nil, List.forall₂_nil_left_iff]
    exact eq_comm
  | cons c s ih =>
    intro part hpart
    rw [List.flatMap_cons, List.forall₂_cons_left_iff]
    constructor
    · intro heq
      have hcapitals : ∀ capital ∈ upperOf c, capital ∈ word := by
        intro capital hmem
        apply hpart
        rw [← heq]
        exact List.mem_append_left _ hmem
      obtain ⟨capital, hupper, hletter⟩ := h.exists_capital hcapitals
      rw [hupper, List.singleton_append] at heq
      have hrest : ∀ x ∈ s.flatMap upperOf, x ∈ word := fun x hx =>
        hpart x (heq ▸ List.mem_cons_of_mem capital hx)
      exact ⟨capital, s.flatMap upperOf, hletter, (ih _ hrest).1 rfl, heq.symm⟩
    · rintro ⟨capital, rest, hletter, hrest, rfl⟩
      have hcapital := h.capitals capital (hpart capital List.mem_cons_self) c hletter
      rw [hcapital, (ih rest fun x hx => hpart x (List.mem_cons_of_mem capital hx)).2 hrest]
      rfl

theorem IsCapitalWord.upper_eq_iff {word : String} (h : IsCapitalWord word.toList) (s : String) :
    upper s = word ↔
      List.Forall₂ (fun c capital => c ∈ lettersOf capital) s.toList word.toList := by
  rw [← h.flatMap_upperOf_eq_iff, upper, ← String.toList_inj, String.toList_ofList]

end Gradebook.Text
