import Gradebook.Files.Tree

/-!
# Where paths lead

A path leads where it did as long as every directory on its way stays, so changing a file takes no
other entry out of view.
-/

namespace Gradebook.FileTree

@[simp] theorem node?_nil (t : FileTree) : t.node? [] = some .directory := by
  simp [node?]

theorem ne_nil_of_node? {t : FileTree} {place : Path} (h : t.node? place ≠ some .directory) :
    place ≠ [] := by
  intro he
  exact h (by rw [he, node?_nil])

theorem node?_erase (t : FileTree) {place : Path} (other : Path) (h : place ≠ []) :
    (t.erase place).node? other = if other = place then none else t.node? other := by
  by_cases ho : other = place
  · subst ho
    have hnone : (t.nodes.filter (·.1 ≠ other)).lookup other = none := by
      rw [List.lookup_eq_none_iff]
      intro entry hentry
      have hother := (List.mem_filter.1 hentry).2
      rw [decide_eq_true_iff] at hother
      rw [bne_iff_ne]
      exact Ne.symm hother
    rw [if_pos rfl, node?, if_neg h]
    exact hnone
  · -- elsewhere erasing shows what putting shows, so the law of `put` is used
    have hne : (other == place) = false := by simpa using ho
    have hput := node?_put t .directory other h
    rw [if_neg ho] at hput
    rw [if_neg ho, ← hput]
    simp only [node?, erase, put, List.lookup_cons, hne]

theorem walk_append (t : FileTree) (p q : Path) (here : Path) :
    t.walk here (p ++ q) = (t.walk here p).bind fun place => t.walk place q := by
  induction p generalizing here with
  | nil => rfl
  | cons name p ih =>
    simp only [List.cons_append, walk]
    split
    · rfl
    · rfl
    · -- a dot, a step up, a name that is too long, a name
      repeat' split
      all_goals first | rfl | exact ih _

def IsEntryName (name : String) : Prop :=
  name ≠ "." ∧ name ≠ ".." ∧ name.utf8ByteSize ≤ maxNameBytes ∧ '\x00' ∉ name.toList

/-- A path leads to a directory at a place. -/
def LeadsTo (t : FileTree) (path place : Path) : Prop :=
  t.locate path = .ok place ∧ t.node? place = some .directory

theorem isDirectory_iff (t : FileTree) (path : Path) :
    t.isDirectory path = true ↔ ∃ place, t.LeadsTo path place := by
  unfold isDirectory find LeadsTo
  cases hl : t.locate path with
  | error p => simp
  | ok place =>
    cases hn : t.node? place with
    | none => simp [hn]
    | some n => cases n <;> simp [hn]

theorem leadsTo_nil (t : FileTree) : t.LeadsTo [] [] :=
  ⟨rfl, t.node?_nil⟩

theorem walk_of_locate {t : FileTree} {path place : Path} (h : t.locate path = .ok place) :
    t.walk [] path = .ok place := by
  unfold locate at h
  split at h
  · cases h
  · exact h

theorem LeadsTo.locate_append {t : FileTree} {path place : Path} (h : t.LeadsTo path place)
    {name : String} (hname : IsEntryName name) :
    t.locate (path ++ [name]) = .ok (place ++ [name]) := by
  obtain ⟨hlocate, hplace⟩ := h
  obtain ⟨hdot, hup, hsize, hnull⟩ := hname
  have hwalk := walk_of_locate hlocate
  unfold locate at hlocate ⊢
  split at hlocate
  · cases hlocate
  next hpath =>
    have hall : ¬ (path ++ [name]).any (·.toList.contains '\x00') = true := by
      simpa [List.any_append, hnull] using hpath
    rw [if_neg hall, walk_append, hwalk]
    simp [Except.bind, walk, hplace, hdot, hup, Nat.not_lt.2 hsize]

theorem LeadsTo.find_append {t : FileTree} {path place : Path} (h : t.LeadsTo path place)
    {name : String} (hname : IsEntryName name) :
    (t.find (path ++ [name])).toOption = t.node? (place ++ [name]) := by
  simp only [find, h.locate_append hname]
  cases t.node? (place ++ [name]) <;> rfl

theorem LeadsTo.isDirectory_append {t : FileTree} {path place : Path} (h : t.LeadsTo path place)
    {name : String} (hname : IsEntryName name) :
    t.isDirectory (path ++ [name]) = true ↔ t.node? (place ++ [name]) = some .directory := by
  rw [← h.find_append hname, isDirectory]
  cases t.find (path ++ [name]) with
  | error p => simp [Except.toOption]
  | ok n => cases n <;> simp [Except.toOption]

theorem LeadsTo.isDirectory_append_eq_false {t : FileTree} {path place : Path}
    (h : t.LeadsTo path place) {name : String} (hname : IsEntryName name) :
    t.isDirectory (path ++ [name]) = false ↔ t.node? (place ++ [name]) ≠ some .directory := by
  rw [← Bool.not_eq_true, h.isDirectory_append hname]

/-- A longer path leads on from a directory. -/
theorem leadsTo_of_locate_append {t : FileTree} {path whole : Path} {name : String}
    (h : t.locate (path ++ [name]) = .ok whole) : ∃ place, t.LeadsTo path place := by
  have hwalk := walk_of_locate h
  rw [walk_append] at hwalk
  unfold locate at h
  split at h
  · cases h
  next hall =>
    have hpath : ¬ path.any (·.toList.contains '\x00') = true := by
      intro hany
      exact hall (by rw [List.any_append, hany, Bool.true_or])
    cases hw : t.walk [] path with
    | error p => simp [hw, Except.bind] at hwalk
    | ok place =>
      refine ⟨place, ?_, ?_⟩
      · rw [locate, if_neg hpath, hw]
      · simp only [hw, Except.bind, walk] at hwalk
        split at hwalk
        · cases hwalk
        · cases hwalk
        next hplace => exact hplace

/-- What is found under a longer path lies in a directory. -/
theorem leadsTo_of_find_append {t : FileTree} {path : Path} {name : String} {n : Node}
    (h : t.find (path ++ [name]) = .ok n) : ∃ place, t.LeadsTo path place := by
  unfold find at h
  cases hlocate : t.locate (path ++ [name]) with
  | error p => simp [hlocate] at h
  | ok whole => exact leadsTo_of_locate_append hlocate

theorem isDirectory_of_append {t : FileTree} {path : Path} (more : Path)
    (h : t.isDirectory (path ++ more) = true) : t.isDirectory path = true := by
  induction more generalizing path with
  | nil => rwa [List.append_nil] at h
  | cons name more ih =>
    rw [List.append_cons] at h
    obtain ⟨place, hplace⟩ := (isDirectory_iff t _).1 (ih h)
    exact (isDirectory_iff t path).2 (leadsTo_of_locate_append hplace.1)

/-- Every directory of a tree is a directory of another. -/
def KeepsDirectories (t u : FileTree) : Prop :=
  ∀ place, t.node? place = some .directory → u.node? place = some .directory

theorem KeepsDirectories.walk {t u : FileTree} (h : t.KeepsDirectories u) {path here place : Path}
    (hwalk : t.walk here path = .ok place) : u.walk here path = .ok place := by
  induction path generalizing here with
  | nil => exact hwalk
  | cons name path ih =>
    unfold FileTree.walk at hwalk ⊢
    cases hnode : t.node? here with
    | none => simp [hnode] at hwalk
    | some n =>
      cases n with
      | file c => simp [hnode] at hwalk
      | directory =>
        rw [h here hnode]
        simp only [hnode] at hwalk ⊢
        split at hwalk
        next hdot => rw [if_pos hdot]; exact ih hwalk
        next hdot =>
          rw [if_neg hdot]
          split at hwalk
          next hup => rw [if_pos hup]; exact ih hwalk
          next hup =>
            rw [if_neg hup]
            split at hwalk
            · cases hwalk
            next hsize => rw [if_neg hsize]; exact ih hwalk

theorem KeepsDirectories.locate {t u : FileTree} (h : t.KeepsDirectories u) {path place : Path}
    (hlocate : t.locate path = .ok place) : u.locate path = .ok place := by
  have hwalk := walk_of_locate hlocate
  unfold FileTree.locate at hlocate ⊢
  split at hlocate
  · cases hlocate
  next hnull => rw [if_neg hnull]; exact h.walk hwalk

theorem LeadsTo.keep {t u : FileTree} {path place : Path} (hpath : t.LeadsTo path place)
    (h : t.KeepsDirectories u) : u.LeadsTo path place :=
  ⟨h.locate hpath.1, h place hpath.2⟩

/-- A change at one place keeps the directories unless there is one at that place. -/
theorem keepsDirectories_of_other {t u : FileTree} {place : Path}
    (h : t.node? place ≠ some .directory)
    (hother : ∀ other, other ≠ place → u.node? other = t.node? other) : t.KeepsDirectories u := by
  intro other hdir
  have hne : other ≠ place := by
    intro he
    exact h (by rw [← he, hdir])
  rw [hother other hne, hdir]

theorem keepsDirectories_put {t : FileTree} {place : Path} (n : Node)
    (h : t.node? place ≠ some .directory) : t.KeepsDirectories (t.put place n) := by
  apply keepsDirectories_of_other h
  intro other hne
  rw [node?_put t n other (ne_nil_of_node? h), if_neg hne]

theorem keepsDirectories_erase {t : FileTree} {place : Path}
    (h : t.node? place ≠ some .directory) : t.KeepsDirectories (t.erase place) := by
  apply keepsDirectories_of_other h
  intro other hne
  rw [node?_erase t other (ne_nil_of_node? h), if_neg hne]

theorem LeadsTo.put {t : FileTree} {path base place : Path} (h : t.LeadsTo path base) (n : Node)
    (hplace : t.node? place ≠ some .directory) : (t.put place n).LeadsTo path base :=
  h.keep (keepsDirectories_put n hplace)

theorem LeadsTo.erase {t : FileTree} {path base place : Path} (h : t.LeadsTo path base)
    (hplace : t.node? place ≠ some .directory) : (t.erase place).LeadsTo path base :=
  h.keep (keepsDirectories_erase hplace)

theorem append_singleton_inj (base : Path) {name other : String} :
    base ++ [name] = base ++ [other] ↔ name = other := by
  simp

theorem node?_put_entry (t : FileTree) (base : Path) (name other : String) (n : Node) :
    (t.put (base ++ [name]) n).node? (base ++ [other]) =
      if other = name then some n else t.node? (base ++ [other]) := by
  rw [node?_put t n _ (by simp)]
  simp only [append_singleton_inj]

theorem node?_erase_entry (t : FileTree) (base : Path) (name other : String) :
    (t.erase (base ++ [name])).node? (base ++ [other]) =
      if other = name then none else t.node? (base ++ [other]) := by
  rw [node?_erase t _ (by simp)]
  simp only [append_singleton_inj]

end Gradebook.FileTree
