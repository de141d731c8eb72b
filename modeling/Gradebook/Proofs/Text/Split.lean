import Mathlib.Data.String.Basic

/-!
# Texts split at a character

A text is split at a character where its list of characters is, so that what follows the last such
character is the last part.
-/

namespace Gradebook.Text

open String (utf8Len ofList)

theorem extract_part (before part rest : List Char) :
    String.Pos.Raw.extract (ofList (before ++ part ++ rest)) ⟨utf8Len before⟩
      ⟨utf8Len (before ++ part)⟩ = ofList part := by
  rw [String.utf8Len_append]
  exact String.extract_of_valid before part rest

/-- One step of the search: at the mark the part ends and the next one begins behind it, and at any
other character the part goes on. -/
theorem splitOnAux_cons (mark c : Char) (before part rest : List Char) (parts : List String) :
    let text := ofList (before ++ part ++ c :: rest)
    let next : String.Pos.Raw := ⟨utf8Len (before ++ part) + c.utf8Size⟩
    String.splitOnAux text (ofList [mark]) ⟨utf8Len before⟩ ⟨utf8Len (before ++ part)⟩ 0 parts =
      if c = mark then String.splitOnAux text (ofList [mark]) next next 0 (ofList part :: parts)
      else String.splitOnAux text (ofList [mark]) ⟨utf8Len before⟩ next 0 parts := by
  intro text next
  have hend : ¬ String.Pos.Raw.atEnd text ⟨utf8Len (before ++ part)⟩ = true := by
    rw [String.atEnd_of_valid]
    exact List.cons_ne_nil c rest
  have hget : String.Pos.Raw.get text ⟨utf8Len (before ++ part)⟩ = c :=
    String.get_of_valid (before ++ part) (c :: rest)
  have hmark : String.Pos.Raw.get (ofList [mark]) 0 = mark := String.get_of_valid [] [mark]
  have hstep : String.Pos.Raw.next text ⟨utf8Len (before ++ part)⟩ = next :=
    String.next_of_valid (before ++ part) c rest
  rw [String.splitOnAux, if_neg hend, hget, hmark]
  by_cases hc : c = mark
  · subst hc
    have hnext : String.Pos.Raw.next (ofList [c]) 0 = ⟨c.utf8Size⟩ := by
      have hvalid := String.next_of_valid [] c []
      simpa using hvalid
    have hdone : String.Pos.Raw.atEnd (ofList [c]) ⟨c.utf8Size⟩ = true := by
      have hvalid := (String.atEnd_of_valid [c] []).2 rfl
      simpa using hvalid
    have hback : next.unoffsetBy ⟨c.utf8Size⟩ = ⟨utf8Len (before ++ part)⟩ := by
      simp [next, String.Pos.Raw.unoffsetBy]
    simp only [beq_self_eq_true, if_true, hnext, hdone, hstep, hback, text, extract_part]
  · have hstay : (⟨utf8Len (before ++ part)⟩ : String.Pos.Raw).unoffsetBy 0 =
        ⟨utf8Len (before ++ part)⟩ := rfl
    simp only [beq_eq_false_iff_ne.2 hc, Bool.false_eq_true, if_false, hstay, hstep, if_neg hc]

/-- The search looks at the rest of a text, with the part begun last and the parts found before. -/
theorem splitOnAux_char (mark : Char) (before part rest : List Char) (parts : List String) :
    String.splitOnAux (ofList (before ++ part ++ rest)) (ofList [mark]) ⟨utf8Len before⟩
        ⟨utf8Len (before ++ part)⟩ 0 parts =
      parts.reverse ++ (List.splitOnPPrepend (· == mark) rest part.reverse).map ofList := by
  induction rest generalizing before part parts with
  | nil =>
    have hend := (String.atEnd_of_valid (before ++ part) []).2 rfl
    rw [String.splitOnAux, if_pos hend, extract_part]
    simp
  | cons c rest ih =>
    have htext : before ++ part ++ [c] ++ rest = before ++ part ++ c :: rest := by simp
    have hplace : utf8Len (before ++ part ++ [c]) = utf8Len (before ++ part) + c.utf8Size := by
      simp [Nat.add_assoc]
    rw [splitOnAux_cons]
    by_cases hc : c = mark
    · have hrest := ih (before ++ part ++ [c]) [] (ofList part :: parts)
      rw [List.append_nil, htext, hplace] at hrest
      rw [if_pos hc, hrest]
      simp [List.splitOnPPrepend_cons_eq_if, hc]
    · have hrest := ih before (part ++ [c]) parts
      rw [← List.append_assoc, htext, hplace] at hrest
      rw [if_neg hc, hrest]
      simp [List.splitOnPPrepend_cons_eq_if, hc]

theorem splitOn_char (s : String) (mark : Char) :
    s.splitOn (ofList [mark]) = (s.toList.splitOn mark).map ofList := by
  have hmark : (ofList [mark] == "") = false := by
    rw [beq_eq_false_iff_ne]
    intro hempty
    have hlist := congrArg String.toList hempty
    simp at hlist
  have haux := splitOnAux_char mark [] [] s.toList []
  simp only [List.nil_append, String.ofList_toList] at haux
  rw [String.splitOn, hmark, List.splitOn_eq_splitOnP, List.splitOnP_eq_splitOnPPrepend]
  exact haux

/-- A name behind a last slash is the last part. -/
theorem splitOn_append_slash (s : String) {name : String} (h : '/' ∉ name.toList) :
    (s ++ "/" ++ name).splitOn "/" = s.splitOn "/" ++ [name] := by
  have hslash : "/" = ofList ['/'] := rfl
  have hone : name.toList.splitOn '/' = [name.toList] := List.splitOn_eq_singleton h
  rw [hslash, splitOn_char, splitOn_char, String.toList_append, String.toList_append,
    List.append_assoc, String.toList_ofList, List.singleton_append, List.splitOn_append_cons_self,
    hone, List.map_append, List.map_singleton, String.ofList_toList]

end Gradebook.Text
