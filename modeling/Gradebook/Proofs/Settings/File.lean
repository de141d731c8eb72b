import Gradebook.Proofs.Files.Agreement
import Gradebook.Settings.File

/-!
# Settings that stay

What is loaded from a settings file depends on no files but the one that is named and those whose
names have an ending added.
-/

namespace Gradebook.Settings

open FileTree (AgreesBut IsEntryName)

/-- The names of the files that a name leads to. -/
def fileNames (name : String) : List String :=
  name :: Format.all.map fun f => name ++ f.ending

theorem mem_fileNames (name : String) (f : Format) : name ++ f.ending ∈ fileNames name := by
  cases f <;> simp [fileNames, Format.all]

/-- The files that a settings name leads to have none of the names. -/
def IsApart (names : List String) (here : Path) (name : String) : Prop :=
  ∀ last ∈ (Path.ofText here name).getLast?,
    ∀ n ∈ fileNames last, IsEntryName n ∧ n ∉ names

variable {names : List String} {t u : FileTree} {here : Path} {name : String}

/-- The last name of the path stays when dots are left out. -/
theorem IsApart.path (h : IsApart names here name) :
    Path.ofText here name = [] ∨ ∃ front plain : Path, ∃ last,
      Path.ofText here name = front ++ [last] ∧
      (front ++ [last]).filter (· ≠ ".") = plain ++ [last] ∧
      ∀ n ∈ fileNames last, IsEntryName n ∧ n ∉ names := by
  obtain hnil | ⟨front, last, hpath⟩ := List.eq_nil_or_concat (Path.ofText here name)
  · exact .inl hnil
  · rw [List.concat_eq_append] at hpath
    have hlast : ∀ n ∈ fileNames last, IsEntryName n ∧ n ∉ names :=
      h last (by rw [hpath, List.getLast?_concat]; rfl)
    have hdot : last ≠ "." := (hlast last List.mem_cons_self).1.1
    refine .inr ⟨front, front.filter (· ≠ "."), last, hpath, ?_, hlast⟩
    rw [List.filter_append]
    simp [hdot]

theorem locateFile_of_agreesBut (h : t.AgreesBut names u) (hname : IsApart names here name) :
    locateFile u here name = locateFile t here name := by
  obtain hnil | ⟨front, plain, last, hpath, hplain, hlast⟩ := hname.path
  · rw [locateFile, locateFile, hnil]
    rfl
  · have hsame (path : Path) {n : String} (hn : n ∈ fileNames last) :
        u.isFile (path ++ [n]) = t.isFile (path ++ [n]) :=
      h.isFile_append path (hlast n hn).1 (hlast n hn).2
    have hlonger (f : Format) : u.isFile (plain ++ [last ++ f.ending]) =
        t.isFile (plain ++ [last ++ f.ending]) := hsame plain (mem_fileNames last f)
    simp only [locateFile, hpath, hplain, List.getLast?_concat, Option.bind_some,
      List.dropLast_concat, hsame front List.mem_cons_self, hlonger]

theorem locateFile_some (hname : IsApart names here name) {path : Path} {f : Format}
    (h : locateFile t here name = some (path, f)) :
    ∃ front n, path = front ++ [n] ∧ IsEntryName n ∧ n ∉ names := by
  obtain hnil | ⟨front, plain, last, hpath, hplain, hlast⟩ := hname.path
  · rw [locateFile, hnil] at h
    cases h
  simp only [locateFile, hpath, hplain, List.getLast?_concat, Option.bind_some,
    List.dropLast_concat] at h
  split at h
  · obtain ⟨g, -, hg⟩ := Option.map_eq_some_iff.1 h
    cases hg
    exact ⟨front, last, rfl, hlast last List.mem_cons_self⟩
  · obtain ⟨g, -, hg⟩ := List.exists_of_findSome?_eq_some h
    split at hg
    · cases hg
      exact ⟨plain, _, rfl, hlast _ (mem_fileNames last f)⟩
    · cases hg

theorem ofFile?_of_agreesBut (h : t.AgreesBut names u) (hname : IsApart names here name) :
    ofFile? u here name = ofFile? t here name := by
  rw [ofFile?, ofFile?, locateFile_of_agreesBut h hname]
  cases hlocate : locateFile t here name with
  | none => rfl
  | some found =>
    obtain ⟨path, f⟩ := found
    obtain ⟨front, n, rfl, hentry, hother⟩ := locateFile_some hname hlocate
    have hread := h.readText_append front hentry hother
    simp only
    revert hread
    cases u.readText (front ++ [n]) <;> cases t.readText (front ++ [n]) <;> intro hread <;>
      cases hread
    all_goals rfl

theorem load_of_agreesBut {name : Option String} (h : t.AgreesBut names u)
    (hname : ∀ n ∈ name, IsApart names here n) (env : List (String × String)) :
    load u here name env = load t here name env := by
  cases name with
  | none => rfl
  | some name =>
    simp only [load, Option.elim_some, ofFile?_of_agreesBut h (hname name rfl)]

end Gradebook.Settings
