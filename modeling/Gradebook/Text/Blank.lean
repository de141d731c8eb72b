/-!
# White space

Typed commands, names and stored files are split and trimmed at the characters with the
White_Space property.  This module holds the property, the words of a text (its maximal runs
without white space) and the trimmed text, with what each says about the characters it keeps.
-/

namespace Gradebook.Text

/-- A character with the White_Space property. -/
def isBlank (c : Char) : Bool :=
  let n := c.toNat
  (9 ≤ n && n ≤ 13) || n == 0x20 || n == 0x85 || n == 0xA0 || n == 0x1680 ||
    (0x2000 ≤ n && n ≤ 0x200A) || n == 0x2028 || n == 0x2029 || n == 0x202F ||
    n == 0x205F || n == 0x3000

def extendFirst (c : Char) : List (List Char) → List (List Char)
  | [] => [[c]]
  | w :: ws => (c :: w) :: ws

/-- The maximal runs of characters without white space, in order. -/
def wordsOf : List Char → List (List Char)
  | [] => []
  | [c] => if isBlank c then [] else [[c]]
  | c :: d :: rest =>
    if isBlank c then wordsOf (d :: rest)
    else if isBlank d then [c] :: wordsOf (d :: rest)
    else extendFirst c (wordsOf (d :: rest))

def words (s : String) : List String :=
  (wordsOf s.toList).map String.ofList

theorem wordsOf_cons_blank {c : Char} (h : isBlank c = true) (s : List Char) :
    wordsOf (c :: s) = wordsOf s := by
  cases s <;> simp [wordsOf, h]

theorem mem_extendFirst {c : Char} {w : List Char} {ws : List (List Char)}
    (h : w ∈ extendFirst c ws) : (∃ v, (v = [] ∨ v ∈ ws) ∧ w = c :: v) ∨ w ∈ ws := by
  cases ws with
  | nil => exact Or.inl ⟨[], Or.inl rfl, by simpa [extendFirst] using h⟩
  | cons v vs =>
    simp only [extendFirst, List.mem_cons] at h
    rcases h with rfl | h
    · exact Or.inl ⟨v, Or.inr (by simp), rfl⟩
    · exact Or.inr (by simp [h])

theorem wordsOf_word {s w : List Char} (h : w ∈ wordsOf s) :
    w ≠ [] ∧ ∀ c ∈ w, isBlank c = false := by
  induction s generalizing w with
  | nil => simp [wordsOf] at h
  | cons c s ih =>
    cases s with
    | nil =>
      by_cases hc : isBlank c = true <;> simp [wordsOf, hc] at h
      subst h
      simpa using hc
    | cons d s =>
      by_cases hc : isBlank c = true
      · exact ih (by simpa [wordsOf, hc] using h)
      · by_cases hd : isBlank d = true
        · simp only [wordsOf, if_neg hc, if_pos hd, List.mem_cons] at h
          rcases h with rfl | h
          · simpa using hc
          · exact ih h
        · simp only [wordsOf, if_neg hc, if_neg hd] at h
          rcases mem_extendFirst h with ⟨v, hv, rfl⟩ | h
          · refine ⟨by simp, fun x hx => ?_⟩
            rcases List.mem_cons.1 hx with rfl | hx
            · simpa using hc
            · rcases hv with rfl | hv
              · simp at hx
              · exact (ih hv).2 x hx
          · exact ih h

def trimStartOf (s : List Char) : List Char :=
  s.dropWhile isBlank

def trimEndOf (s : List Char) : List Char :=
  (s.reverse.dropWhile isBlank).reverse

def trim (s : String) : String :=
  String.ofList (trimEndOf (trimStartOf s.toList))

def isAllBlank (s : String) : Bool :=
  s.toList.all isBlank

end Gradebook.Text
