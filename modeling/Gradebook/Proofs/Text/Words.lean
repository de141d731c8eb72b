import Gradebook.Proofs.Text.Decimal
import Gradebook.Text.Blank
import Mathlib.Data.List.Chain

/-!
# Words

What the words of a text are, told without cutting the text up: its maximal runs of characters
without white space, in their order.  A text with no word is trimmed to nothing, and a text with one
word is trimmed to that word.
-/

namespace Gradebook.Text

/-! ### Maximal runs -/

/-- The maximal runs of characters without white space.  A run goes on to a blank or to the end of
the text, so the next one begins after a blank. -/
inductive Runs : List Char → List (List Char) → Prop
  | nil : Runs [] []
  | blank {c : Char} {s : List Char} {ws : List (List Char)} (hc : isBlank c = true)
      (h : Runs s ws) : Runs (c :: s) ws
  | word {w s : List Char} {ws : List (List Char)} (hne : w ≠ []) (hw : ∀ c ∈ w, isBlank c = false)
      (hend : ∀ c ∈ s.head?, isBlank c = true) (h : Runs s ws) : Runs (w ++ s) (w :: ws)

theorem exists_runs (s : List Char) : ∃ ws, Runs s ws := by
  induction s with
  | nil => exact ⟨[], .nil⟩
  | cons c s ih =>
    obtain ⟨ws, hws⟩ := ih
    cases hc : isBlank c with
    | true => exact ⟨ws, .blank hc hws⟩
    | false =>
      have hone : ∀ d ∈ [c], isBlank d = false := by
        intro d hd
        rw [List.mem_singleton.1 hd, hc]
      -- the character begins a run, or goes in front of the run that the rest begins with
      cases hws with
      | nil => exact ⟨[[c]], .word (List.cons_ne_nil c []) hone nofun .nil⟩
      | @blank d s ws hd h =>
        have hend : ∀ x ∈ (d :: s).head?, isBlank x = true := by
          intro x hx
          cases hx
          exact hd
        exact ⟨[c] :: ws, .word (List.cons_ne_nil c []) hone hend (.blank hd h)⟩
      | @word w s ws hne hw hend h =>
        have hlonger : ∀ d ∈ c :: w, isBlank d = false := by
          intro d hd
          rcases List.mem_cons.1 hd with rfl | hd
          · exact hc
          · exact hw d hd
        exact ⟨(c :: w) :: ws, .word (List.cons_ne_nil c w) hlonger hend h⟩

theorem wordsOf_append_word {w s : List Char} (hne : w ≠ []) (hw : ∀ c ∈ w, isBlank c = false)
    (hend : ∀ c ∈ s.head?, isBlank c = true) : wordsOf (w ++ s) = w :: wordsOf s := by
  induction w with
  | nil => exact absurd rfl hne
  | cons c w ih =>
    obtain ⟨hc, hrest⟩ := List.forall_mem_cons.1 hw
    cases w with
    | nil =>
      cases s with
      | nil => simp [wordsOf, hc]
      | cons d s => simp [wordsOf, hc, hend d rfl]
    | cons d w =>
      have hd : isBlank d = false := hrest d List.mem_cons_self
      have hwords := ih (List.cons_ne_nil d w) hrest
      rw [List.cons_append] at hwords
      simp [wordsOf, hc, hd, hwords, extendFirst]

theorem Runs.wordsOf_eq {s : List Char} {ws : List (List Char)} (h : Runs s ws) :
    wordsOf s = ws := by
  induction h with
  | nil => rfl
  | blank hc _ ih => rw [wordsOf_cons_blank hc, ih]
  | word hne hw hend _ ih => rw [wordsOf_append_word hne hw hend, ih]

theorem wordsOf_eq_iff {s : List Char} {ws : List (List Char)} : wordsOf s = ws ↔ Runs s ws := by
  constructor
  · rintro rfl
    obtain ⟨ws, h⟩ := exists_runs s
    rw [h.wordsOf_eq]
    exact h
  · exact Runs.wordsOf_eq

theorem map_toList_ofList (ws : List (List Char)) :
    (ws.map String.ofList).map String.toList = ws := by
  rw [List.map_map]
  exact List.map_id'' (fun _ => String.toList_ofList) ws

theorem map_ofList_toList (ws : List String) : (ws.map String.toList).map String.ofList = ws := by
  rw [List.map_map]
  exact List.map_id'' (fun _ => String.ofList_toList) ws

/-- The words of a text. -/
def IsWords (s : String) (ws : List String) : Prop :=
  Runs s.toList (ws.map String.toList)

theorem words_eq_iff {s : String} {ws : List String} : words s = ws ↔ IsWords s ws := by
  rw [IsWords, ← wordsOf_eq_iff, words]
  constructor
  · rintro rfl
    exact (map_toList_ofList _).symm
  · intro h
    rw [h, map_ofList_toList]

theorem Runs.isBlank_of_nil {s : List Char} (h : Runs s []) : ∀ c ∈ s, isBlank c = true := by
  generalize hws : ([] : List (List Char)) = ws at h
  induction h with
  | nil => exact nofun
  | blank hc _ ih => exact List.forall_mem_cons.2 ⟨hc, ih hws⟩
  | word => cases hws

/-- A text with one word has nothing around it but blanks. -/
theorem Runs.eq_of_singleton {s w : List Char} (h : Runs s [w]) :
    ∃ before after, s = before ++ w ++ after ∧ (∀ c ∈ before, isBlank c = true) ∧
      ∀ c ∈ after, isBlank c = true := by
  generalize hws : [w] = ws at h
  induction h with
  | nil => cases hws
  | @blank c s ws hc _ ih =>
    obtain ⟨before, after, rfl, hbefore, hafter⟩ := ih hws
    exact ⟨c :: before, after, rfl, List.forall_mem_cons.2 ⟨hc, hbefore⟩, hafter⟩
  | @word v s ws _ _ _ hrest _ =>
    cases hws
    exact ⟨[], s, rfl, nofun, hrest.isBlank_of_nil⟩

theorem Runs.trim {s w : List Char} (h : Runs s [w]) : trimEndOf (trimStartOf s) = w := by
  have hmem : w ∈ wordsOf s := by
    rw [h.wordsOf_eq]
    exact List.mem_singleton_self w
  obtain ⟨hne, hw⟩ := wordsOf_word hmem
  obtain ⟨before, after, rfl, hbefore, hafter⟩ := h.eq_of_singleton
  have hfirst : ∀ c ∈ (w ++ after).head?, isBlank c = false := by
    obtain ⟨d, v, rfl⟩ := List.exists_cons_of_ne_nil hne
    intro c hc
    cases hc
    exact hw _ List.mem_cons_self
  have hlast : ∀ c ∈ w.reverse.head?, isBlank c = false := by
    intro c hc
    exact hw c (List.mem_reverse.1 (List.mem_of_mem_head? hc))
  have hstart : trimStartOf (before ++ w ++ after) = w ++ after := by
    rw [trimStartOf, List.append_assoc]
    exact dropWhile_append_of_ends hbefore hfirst
  have hend : (w ++ after).reverse.dropWhile isBlank = w.reverse := by
    rw [List.reverse_append]
    exact dropWhile_append_of_ends (fun c hc => hafter c (List.mem_reverse.1 hc)) hlast
  rw [hstart, trimEndOf, hend, List.reverse_reverse]

theorem trim_of_no_words {s : String} (h : IsWords s []) : trim s = "" := by
  have hstart : trimStartOf s.toList = [] := by
    rw [trimStartOf, ← List.append_nil s.toList]
    exact dropWhile_append_of_ends h.isBlank_of_nil nofun
  rw [trim, hstart]
  rfl

theorem trim_of_one_word {s w : String} (h : IsWords s [w]) : trim s = w := by
  rw [trim, Runs.trim h, String.ofList_toList]

/-! ### Words of changed texts -/

theorem Runs.append_blank {s : List Char} {ws : List (List Char)} (h : Runs s ws) {c : Char}
    (hc : isBlank c = true) : Runs (s ++ [c]) ws := by
  induction h with
  | nil => exact .blank hc .nil
  | blank hd _ ih => exact .blank hd ih
  | @word w s ws hne hw hend _ ih =>
    rw [List.append_assoc]
    refine .word hne hw ?_ ih
    intro d hd
    cases s with
    | nil =>
      cases hd
      exact hc
    | cons e s => exact hend d hd

theorem Runs.append_blanks {s blanks : List Char} {ws : List (List Char)} (h : Runs s ws)
    (hblanks : ∀ c ∈ blanks, isBlank c = true) : Runs (s ++ blanks) ws := by
  induction blanks generalizing s with
  | nil => rwa [List.append_nil]
  | cons c blanks ih =>
    obtain ⟨hc, hrest⟩ := List.forall_mem_cons.1 hblanks
    have hlonger := ih (h.append_blank hc) hrest
    rwa [List.append_assoc] at hlonger

theorem wordsOf_trimStartOf (s : List Char) : wordsOf (trimStartOf s) = wordsOf s := by
  induction s with
  | nil => rfl
  | cons c s ih =>
    rw [trimStartOf, List.dropWhile_cons]
    split
    next hc => rw [wordsOf_cons_blank hc, ← ih, trimStartOf]
    next => rfl

theorem wordsOf_trimEndOf (s : List Char) : wordsOf (trimEndOf s) = wordsOf s := by
  have hsplit : trimEndOf s ++ (s.reverse.takeWhile isBlank).reverse = s := by
    rw [trimEndOf, ← List.reverse_append, List.takeWhile_append_dropWhile, List.reverse_reverse]
  have hblanks : ∀ c ∈ (s.reverse.takeWhile isBlank).reverse, isBlank c = true := by
    intro c hc
    exact List.all_eq_true.1 List.all_takeWhile c (List.mem_reverse.1 hc)
  have hruns := (wordsOf_eq_iff.1 (rfl : wordsOf (trimEndOf s) = _)).append_blanks hblanks
  rw [hsplit] at hruns
  exact hruns.wordsOf_eq.symm

theorem words_trim (s : String) : words (trim s) = words s := by
  rw [words, words, trim, String.toList_ofList, wordsOf_trimEndOf, wordsOf_trimStartOf]

def IsWord (w : String) : Prop :=
  w.toList ≠ [] ∧ ∀ c ∈ w.toList, isBlank c = false

instance : DecidablePred IsWord := fun w =>
  decidable_of_iff (w.toList ≠ [] ∧ w.toList.all (!isBlank ·) = true) (by simp [IsWord])

theorem isWord_of_mem_words {s w : String} (h : w ∈ words s) : IsWord w := by
  obtain ⟨chars, hchars, rfl⟩ := List.mem_map.1 h
  rw [IsWord, String.toList_ofList]
  exact wordsOf_word hchars

theorem words_intercalate {ws : List String} (h : ∀ w ∈ ws, IsWord w) :
    words (" ".intercalate ws) = ws := by
  rw [words_eq_iff, IsWords]
  induction ws with
  | nil => exact .nil
  | cons w ws ih =>
    obtain ⟨⟨hne, hw⟩, hrest⟩ := List.forall_mem_cons.1 h
    cases ws with
    | nil =>
      have hruns := Runs.word (s := []) hne hw nofun .nil
      rwa [List.append_nil] at hruns
    | cons v ws =>
      have hspace : isBlank ' ' = true := by decide
      rw [String.intercalate_cons_cons, String.append_assoc, String.toList_append,
        String.toList_append]
      refine .word hne hw ?_ (.blank hspace (ih hrest))
      intro c hc
      cases hc
      exact hspace

theorem words_intercalate_words (s : String) : words (" ".intercalate (words s)) = words s :=
  words_intercalate fun _ => isWord_of_mem_words

/-! ### Words with single spaces between them -/

/-- A text that neither begins nor ends with white space, and in which all white space is single
spaces. -/
structure IsSpaced (s : List Char) : Prop where
  nonempty : s ≠ []
  first : ∀ c ∈ s.head?, isBlank c = false
  last : ∀ c ∈ s.getLast?, isBlank c = false
  spaces : ∀ c ∈ s, isBlank c = true → c = ' '
  single : s.IsChain fun c d => isBlank c = true → isBlank d = false

theorem IsWord.isSpaced {w : String} (h : IsWord w) : IsSpaced w.toList where
  nonempty := h.1
  first c hc := h.2 c (List.mem_of_mem_head? hc)
  last c hc := h.2 c (List.mem_of_mem_getLast? hc)
  spaces c hc hblank := by
    rw [h.2 c hc] at hblank
    cases hblank
  single := by
    apply List.Pairwise.isChain
    apply List.pairwise_of_forall_mem_list
    intro c _ d hd _
    exact h.2 d hd

theorem IsSpaced.word_append {w : String} {s : List Char} (hw : IsWord w) (hs : IsSpaced s) :
    IsSpaced (w.toList ++ ' ' :: s) where
  nonempty := List.append_ne_nil_of_left_ne_nil hw.1 _
  first := by
    rw [List.head?_append_of_ne_nil _ hw.1]
    exact hw.isSpaced.first
  last := by
    rw [List.getLast?_append_of_ne_nil _ (List.cons_ne_nil _ _),
      List.getLast?_cons_of_ne_nil hs.nonempty]
    exact hs.last
  spaces := by
    intro c hc hblank
    rcases List.mem_append.1 hc with hc | hc
    · exact hw.isSpaced.spaces c hc hblank
    · rcases List.mem_cons.1 hc with rfl | hc
      · rfl
      · exact hs.spaces c hc hblank
  single := by
    refine hw.isSpaced.single.append (hs.single.cons fun c hc _ => hs.first c hc) ?_
    intro c hc d _ hblank
    rw [hw.isSpaced.last c hc] at hblank
    cases hblank

/-- A word at the front of such a text is all of it, or a single space goes before the rest. -/
theorem IsSpaced.of_word_append {w s : List Char} (h : IsSpaced (w ++ s))
    (hend : ∀ c ∈ s.head?, isBlank c = true) :
    s = [] ∨ ∃ rest, s = ' ' :: rest ∧ IsSpaced rest := by
  cases s with
  | nil => exact .inl rfl
  | cons c rest =>
    have hblank : isBlank c = true := hend c rfl
    have hspace : c = ' ' := h.spaces c (List.mem_append_right w List.mem_cons_self) hblank
    have hchain := List.isChain_cons.1 h.single.right_of_append
    have hne : rest ≠ [] := by
      rintro rfl
      have hlast := h.last c (by rw [List.getLast?_concat]; rfl)
      rw [hblank] at hlast
      cases hlast
    refine .inr ⟨rest, by rw [hspace], hne, fun d hd => hchain.1 d hd hblank, ?_, ?_, hchain.2⟩
    · intro d hd
      apply h.last d
      rw [List.getLast?_append_of_ne_nil _ (List.cons_ne_nil _ _), List.getLast?_cons_of_ne_nil hne]
      exact hd
    · intro d hd
      exact h.spaces d (List.mem_append_right w (List.mem_cons_of_mem c hd))

theorem isSpaced_intercalate {w : String} {ws : List String} (h : ∀ v ∈ w :: ws, IsWord v) :
    IsSpaced (" ".intercalate (w :: ws)).toList := by
  induction ws generalizing w with
  | nil =>
    rw [String.intercalate_singleton]
    exact (h w List.mem_cons_self).isSpaced
  | cons v ws ih =>
    obtain ⟨hw, hrest⟩ := List.forall_mem_cons.1 h
    rw [String.intercalate_cons_cons, String.append_assoc, String.toList_append,
      String.toList_append]
    exact (ih hrest).word_append hw

theorem IsSpaced.not_blank_cons {c : Char} {s : List Char} (h : IsSpaced (c :: s)) :
    isBlank c ≠ true := by
  rw [h.first c rfl]
  exact Bool.false_ne_true

theorem IsSpaced.intercalate_wordsOf {s : List Char} (h : IsSpaced s) :
    [' '].intercalate (wordsOf s) = s := by
  generalize hws : wordsOf s = ws
  induction ws generalizing s with
  | nil =>
    obtain ⟨c, rest, rfl⟩ := List.exists_cons_of_ne_nil h.nonempty
    have hblank := (wordsOf_eq_iff.1 hws).isBlank_of_nil c List.mem_cons_self
    exact absurd hblank h.not_blank_cons
  | cons w ws ih =>
    cases wordsOf_eq_iff.1 hws with
    | blank hc => exact absurd hc h.not_blank_cons
    | @word _ rest _ _ _ hend hrest =>
      rcases h.of_word_append hend with rfl | ⟨rest, rfl, hspaced⟩
      · cases hrest.wordsOf_eq
        rw [wordsOf, List.intercalate_singleton, List.append_nil]
      · have hwords : wordsOf rest = ws := by
          rw [← wordsOf_cons_blank (hend ' ' rfl), hrest.wordsOf_eq]
        have hback := ih hspaced hwords
        have hne : ws ≠ [] := by
          rintro rfl
          exact hspaced.nonempty hback.symm
        rw [List.intercalate_cons_of_ne_nil hne, hback, List.append_assoc]
        rfl

/-- Cutting such a text into its words and putting single spaces between them gives it back. -/
theorem IsSpaced.intercalate_words {s : String} (h : IsSpaced s.toList) :
    " ".intercalate (words s) = s := by
  have hspace : " ".toList = [' '] := rfl
  rw [← String.toList_inj, String.toList_intercalate, words, map_toList_ofList, hspace,
    h.intercalate_wordsOf]

end Gradebook.Text
