import Gradebook.Files.Tree
import Gradebook.Proofs.Text.Split

/-!
# Paths named by texts

A plain name behind a slash at the end of a text is the last name of the path that the text names.
-/

namespace Gradebook

/-- A name that stands in a path as it does in a text. -/
def IsPlainName (name : String) : Prop :=
  name ≠ "" ∧ name ≠ "." ∧ '/' ∉ name.toList

instance (name : String) : Decidable (IsPlainName name) :=
  inferInstanceAs (Decidable (name ≠ "" ∧ name ≠ "." ∧ '/' ∉ name.toList))

theorem exists_of_endsWith_slash {s : String} (h : s.endsWith "/" = true) :
    ∃ front, s = front ++ "/" := by
  rw [← String.endsWith_toSlice, String.Slice.endsWith_string_iff, String.copy_toSlice] at h
  obtain ⟨front, hfront⟩ := h
  refine ⟨String.ofList front, ?_⟩
  rw [← String.toList_inj, String.toList_append, String.toList_ofList]
  exact hfront.symm

namespace Path

/-- The names between the slashes of a text. -/
def parts (text : String) : List String :=
  (text.splitOn "/").filter (· ≠ "")

theorem parts_append {name : String} (h : IsPlainName name) (text : String) :
    parts (text ++ "/" ++ name) = parts text ++ [name] := by
  rw [parts, Text.splitOn_append_slash text h.2.2, List.filter_append]
  simp [parts, h.1]

theorem startsWith_slash (text : String) :
    text.startsWith "/" = (text.toList.head? == some '/') := by
  have hslash : "/".toList = ['/'] := rfl
  rw [Bool.eq_iff_iff, String.startsWith_string_iff, hslash]
  cases text.toList with
  | nil => simp
  | cons c rest =>
    rw [List.cons_prefix_cons, List.head?_cons, beq_iff_eq, Option.some_inj]
    exact ⟨fun h => h.1.symm, fun h => ⟨h.symm, List.nil_prefix⟩⟩

theorem startsWith_append {front : String} (h : front ≠ "") (more : String) :
    (front ++ more).startsWith "/" = front.startsWith "/" := by
  rw [startsWith_slash, startsWith_slash, String.toList_append]
  cases hfront : front.toList with
  | nil => exact absurd (String.toList_eq_nil_iff.1 hfront) h
  | cons c rest => rfl

theorem ofText_eq (here : Path) (text : String) :
    ofText here text =
      let names := ((text.toList.splitOn '/').map String.ofList).filter (· ≠ "")
      let plain := names.filter (· ≠ ".")
      let path := if names.getLast? = some "." then plain ++ ["."] else plain
      if text.toList.head? = some '/' then path else here ++ path := by
  have hslash : "/" = String.ofList ['/'] := rfl
  have hsplit := Text.splitOn_char text '/'
  rw [← hslash] at hsplit
  simp only [ofText, hsplit, startsWith_slash, beq_iff_eq]

/-- Where a text begins to name a path. -/
def start (here : Path) (text : String) : Path :=
  if text.startsWith "/" then [] else here

theorem ofText_name {name : String} (h : IsPlainName name) (text : String) (here : Path) :
    ofText here (text ++ "/" ++ name) =
      start here (text ++ "/" ++ name) ++ (parts text).filter (· ≠ ".") ++ [name] := by
  have hparts : ((text ++ "/" ++ name).splitOn "/").filter (· ≠ "") = parts text ++ [name] :=
    parts_append h text
  have hlast : (parts text ++ [name]).getLast? ≠ some "." := by
    rw [List.getLast?_concat]
    intro hdot
    exact h.2.1 (Option.some.inj hdot)
  have hname : [name].filter (· ≠ ".") = [name] := by simp [h.2.1]
  simp only [ofText, hparts, if_neg hlast, List.filter_append, hname, start]
  split
  · rfl
  · exact (List.append_assoc _ _ _).symm

/-- A plain name that follows another one leads on from there. -/
theorem ofText_append {name inner : String} (h : IsPlainName name) (hinner : IsPlainName inner)
    (text : String) (here : Path) :
    ofText here (text ++ "/" ++ name ++ "/" ++ inner) =
      ofText here (text ++ "/" ++ name) ++ [inner] := by
  have hnonempty : text ++ "/" ++ name ≠ "" := by
    intro hempty
    have hlist := congrArg String.toList hempty
    simp at hlist
  have hassoc : text ++ "/" ++ name ++ "/" ++ inner = text ++ "/" ++ name ++ ("/" ++ inner) :=
    String.append_assoc
  have hstart : start here (text ++ "/" ++ name ++ "/" ++ inner) =
      start here (text ++ "/" ++ name) := by
    rw [start, start, hassoc, startsWith_append hnonempty]
  have hname : [name].filter (· ≠ ".") = [name] := by simp [h.2.1]
  rw [ofText_name hinner, ofText_name h, hstart, parts_append h, List.filter_append, hname,
    ← List.append_assoc]

end Path

end Gradebook
