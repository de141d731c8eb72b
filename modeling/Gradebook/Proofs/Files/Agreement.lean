import Gradebook.Proofs.Files.Tree

/-!
# Trees that agree but for some files

Two trees whose directories are the same and whose files differ only under certain names.  What is
found at a path that ends in another name is the same in both.
-/

namespace Gradebook.FileTree

/-- Whatever stands at a place in one tree stands there in the other, unless the place has one of
the names and holds a directory in neither. -/
def AgreesBut (names : List String) (t u : FileTree) : Prop :=
  ∀ place, u.node? place = t.node? place ∨
    (∃ front, ∃ name ∈ names, place = front ++ [name]) ∧
      t.node? place ≠ some .directory ∧ u.node? place ≠ some .directory

namespace AgreesBut

variable {names more : List String} {t u v : FileTree}

theorem refl (names : List String) (t : FileTree) : t.AgreesBut names t :=
  fun _ => .inl rfl

theorem symm (h : t.AgreesBut names u) : u.AgreesBut names t := by
  intro place
  obtain hsame | ⟨hname, ht, hu⟩ := h place
  · exact .inl hsame.symm
  · exact .inr ⟨hname, hu, ht⟩

theorem trans (h : t.AgreesBut names u) (k : u.AgreesBut names v) : t.AgreesBut names v := by
  intro place
  obtain hsame | ⟨hname, ht, hu⟩ := h place
  · rw [← hsame]
    exact k place
  · obtain hsame | ⟨-, -, hv⟩ := k place
    · rw [hsame]
      exact .inr ⟨hname, ht, hu⟩
    · exact .inr ⟨hname, ht, hv⟩

theorem mono (h : t.AgreesBut names u) (hnames : names ⊆ more) : t.AgreesBut more u := by
  intro place
  obtain hsame | ⟨⟨front, name, hname, hplace⟩, hboth⟩ := h place
  · exact .inl hsame
  · exact .inr ⟨⟨front, name, hnames hname, hplace⟩, hboth⟩

theorem directory_iff (h : t.AgreesBut names u) (place : Path) :
    u.node? place = some .directory ↔ t.node? place = some .directory := by
  obtain hsame | ⟨-, ht, hu⟩ := h place
  · rw [hsame]
  · exact iff_of_false hu ht

theorem leadsTo_iff (h : t.AgreesBut names u) (path place : Path) :
    u.LeadsTo path place ↔ t.LeadsTo path place :=
  ⟨fun hpath => hpath.keep fun other => (h.directory_iff other).1,
    fun hpath => hpath.keep fun other => (h.directory_iff other).2⟩

theorem node?_eq (h : t.AgreesBut names u) {front : Path} {name : String} (hname : name ∉ names) :
    u.node? (front ++ [name]) = t.node? (front ++ [name]) := by
  obtain hsame | ⟨⟨other, found, hfound, hplace⟩, -⟩ := h (front ++ [name])
  · exact hsame
  · obtain ⟨-, hlast⟩ := List.append_inj' hplace rfl
    exact absurd (List.singleton_inj.1 hlast ▸ hfound) hname

/-- What is found at a path is the same, whether its directory is there or not. -/
theorem find_append (h : t.AgreesBut names u) (path : Path) {name : String}
    (hentry : IsEntryName name) (hname : name ∉ names) :
    (u.find (path ++ [name])).toOption = (t.find (path ++ [name])).toOption := by
  by_cases hthere : ∃ place, t.LeadsTo path place
  · obtain ⟨place, hplace⟩ := hthere
    rw [hplace.find_append hentry, ((h.leadsTo_iff path place).2 hplace).find_append hentry,
      h.node?_eq hname]
  · have hmissing {w : FileTree} (hw : ∀ place, ¬ w.LeadsTo path place) :
        (w.find (path ++ [name])).toOption = none := by
      cases hfind : w.find (path ++ [name]) with
      | error p => rfl
      | ok n =>
        obtain ⟨place, hplace⟩ := leadsTo_of_find_append hfind
        exact absurd hplace (hw place)
    rw [hmissing fun place hplace => hthere ⟨place, hplace⟩,
      hmissing fun place hplace => hthere ⟨place, (h.leadsTo_iff path place).1 hplace⟩]

theorem isFile_append (h : t.AgreesBut names u) (path : Path) {name : String}
    (hentry : IsEntryName name) (hname : name ∉ names) :
    u.isFile (path ++ [name]) = t.isFile (path ++ [name]) := by
  have hfind := h.find_append path hentry hname
  simp only [isFile]
  revert hfind
  cases u.find (path ++ [name]) <;> cases t.find (path ++ [name]) <;> intro hfind <;> cases hfind
  all_goals rfl

theorem readText_append (h : t.AgreesBut names u) (path : Path) {name : String}
    (hentry : IsEntryName name) (hname : name ∉ names) :
    (u.readText (path ++ [name])).toOption = (t.readText (path ++ [name])).toOption := by
  have hfind := h.find_append path hentry hname
  simp only [readText]
  revert hfind
  cases u.find (path ++ [name]) <;> cases t.find (path ++ [name]) <;> intro hfind <;> cases hfind
  all_goals rfl

end AgreesBut

variable {names : List String} {name : String} {t : FileTree} {front : Path}

theorem agreesBut_put (hname : name ∈ names) (content : Content)
    (hnode : t.node? (front ++ [name]) ≠ some .directory) :
    t.AgreesBut names (t.put (front ++ [name]) (.file content)) := by
  intro place
  rw [node?_put _ _ _ (by simp)]
  by_cases hplace : place = front ++ [name]
  · subst hplace
    rw [if_pos rfl]
    exact .inr ⟨⟨front, name, hname, rfl⟩, hnode, nofun⟩
  · exact .inl (if_neg hplace)

theorem agreesBut_erase (hname : name ∈ names)
    (hnode : t.node? (front ++ [name]) ≠ some .directory) :
    t.AgreesBut names (t.erase (front ++ [name])) := by
  intro place
  rw [node?_erase _ _ (by simp)]
  by_cases hplace : place = front ++ [name]
  · subst hplace
    rw [if_pos rfl]
    exact .inr ⟨⟨front, name, hname, rfl⟩, hnode, nofun⟩
  · exact .inl (if_neg hplace)

end Gradebook.FileTree
