import Gradebook.Proofs.Preferences.RoundTrip

/-!
# Preferences as a map

Where the file of the preferences can be read and written, no change of them fails, whatever names
and texts they have, although each change writes the whole file anew.  What is kept under a name is
the text stored under it last, unless it has been cleared since or everything has been reset.
-/

namespace Gradebook.Preferences

/-- A change of the preferences. -/
inductive Change where
  | store (name text : String)
  | clear (name : String)
  | reset

namespace Change

/-- The tree after a change, or the problem that it meets. -/
def apply (home : Home) (t : FileTree) : Change → Except Problem FileTree
  | store name text => outcome (Preferences.store t home name text)
  | clear name => outcome (Preferences.clear t home name)
  | reset => Preferences.reset t home
where
  outcome : Option Problem × FileTree → Except Problem FileTree
    | (some p, _) => .error p
    | (none, u) => .ok u

/-- The preferences that a change makes of others. -/
def effect (p : Preferences) : Change → Preferences
  | store name text => p.set name text
  | clear name => p.erase name
  | reset => empty

/-- The change is one of what is kept under the name. -/
def Touches (name : String) : Change → Prop
  | store other _ => other = name
  | clear other => other = name
  | reset => True

end Change

/-- The last of the changes that touches a name stores a text under it. -/
def LastStores (changes : List Change) (name text : String) : Prop :=
  ∃ before later, changes = before ++ .store name text :: later ∧
    ∀ c ∈ later, ¬ c.Touches name

/-! ### What is kept under a name -/

theorem get?_set (p : Preferences) (name text other : String) :
    (p.set name text).get? other = if other = name then some text else p.get? other := by
  obtain ⟨es⟩ := p
  simp only [get?, Preferences.set]
  induction es with
  | nil =>
    by_cases hother : other = name
    · simp [insert, hother]
    · have hne : (other == name) = false := by simpa using hother
      simp [insert, hother, List.lookup_cons, hne]
  | cons e es ih =>
    obtain ⟨first, kept⟩ := e
    by_cases hother : other = name
    · subst hother
      rw [insert]
      split
      · simp
      · split
        · simp
        next hdiffer =>
          have hne : (other == first) = false := by simpa using hdiffer
          simpa [List.lookup_cons, hne] using ih
    · have hne : (other == name) = false := by simpa using hother
      rw [insert, if_neg hother]
      split
      · simp only [List.lookup_cons, hne]
      · split
        next hsame =>
          have hsame : name = first := hsame
          rw [← hsame]
          simp only [List.lookup_cons, hne]
        · rw [List.lookup_cons, List.lookup_cons, ih, if_neg hother]

theorem Change.get?_effect (c : Change) (p : Preferences) (name text : String) :
    (c.effect p).get? name = some text ↔
      c = .store name text ∨ ¬ c.Touches name ∧ p.get? name = some text := by
  cases c with
  | store other stored =>
    simp only [effect, get?_set, Touches, Change.store.injEq]
    by_cases hname : name = other
    · simp [hname]
    · simp [hname, Ne.symm hname]
  | clear other =>
    simp only [effect, get?_erase, Touches, reduceCtorEq, false_or]
    by_cases hname : name = other
    · simp [hname]
    · simp [hname, Ne.symm hname]
  | reset => simp [effect, Touches, empty, get?]

theorem not_lastStores_nil (name text : String) : ¬ LastStores [] name text := by
  rintro ⟨before, later, hsplit, -⟩
  simp at hsplit

theorem lastStores_cons (c : Change) (changes : List Change) (name text : String) :
    LastStores (c :: changes) name text ↔
      LastStores changes name text ∨
        c = .store name text ∧ ∀ d ∈ changes, ¬ d.Touches name := by
  constructor
  · rintro ⟨before, later, hsplit, hlater⟩
    cases before with
    | nil =>
      obtain ⟨rfl, rfl⟩ := List.cons.inj hsplit
      exact .inr ⟨rfl, hlater⟩
    | cons d before => exact .inl ⟨before, later, (List.cons.inj hsplit).2, hlater⟩
  · rintro (⟨before, later, rfl, hlater⟩ | ⟨rfl, hlater⟩)
    · exact ⟨c :: before, later, rfl, hlater⟩
    · exact ⟨[], changes, rfl, hlater⟩

/-- After changes, a name has the text that they store under it last, or the text that it had if none
of them touches it. -/
theorem get?_foldl_effect (changes : List Change) (p : Preferences) (name text : String) :
    (changes.foldl Change.effect p).get? name = some text ↔
      LastStores changes name text ∨
        (∀ c ∈ changes, ¬ c.Touches name) ∧ p.get? name = some text := by
  induction changes generalizing p with
  | nil => simp [not_lastStores_nil]
  | cons c changes ih =>
    rw [List.foldl_cons, ih, c.get?_effect, lastStores_cons, List.forall_mem_cons]
    tauto

/-! ### Changes of the file -/

/-- The file of the preferences can be read and written. -/
structure IsUsable (t : FileTree) (home : Home) : Prop where
  readable : ∃ p, load t home = .ok p
  writable : (save t home empty).1 = none

variable {t u : FileTree} {home : Home}

theorem writable_of_leadsTo {place : Path} (hplace : t.LeadsTo (directoryPath home) place)
    (hnode : t.node? (place ++ ["config.toml"]) ≠ some .directory) :
    (save t home empty).1 = none := by
  rw [save_there hplace hnode]

theorem writable_of_saved {p : Preferences} (h : save t home p = (none, u)) :
    (save u home empty).1 = none := by
  obtain ⟨place, hplace, hnode⟩ := save_ok h
  apply writable_of_leadsTo hplace
  rw [hnode]
  exact nofun

/-- A home directory that holds no preferences yet is usable. -/
theorem isUsable_of_absent {place : Path} (hhome : t.LeadsTo (homePath home) place)
    (hdirectory : t.node? (place ++ [".tutor"]) = none)
    (hfile : t.node? (place ++ [".tutor"] ++ ["config.toml"]) = none) : IsUsable t home := by
  constructor
  · -- nothing is found below a directory that is missing
    have hnone : (t.find (filePath home)).toOption = none := by
      cases hfind : t.find (filePath home) with
      | error cause => rfl
      | ok n =>
        rw [filePath_eq] at hfind
        obtain ⟨found, hfound⟩ := FileTree.leadsTo_of_find_append hfind
        have hisDirectory := (FileTree.isDirectory_iff t (directoryPath home)).2 ⟨found, hfound⟩
        rw [directoryPath_eq, hhome.isDirectory_append isEntryName_directory, hdirectory]
          at hisDirectory
        cases hisDirectory
    refine ⟨empty, ?_⟩
    rw [load_eq, hnone]
    rfl
  · exact save_made hhome hdirectory hfile empty

/-- A file of preferences that is found stands in a directory, from which resetting removes it. -/
theorem reset_found {content : Content} (h : t.find (filePath home) = .ok (.file content)) :
    ∃ place, t.LeadsTo (directoryPath home) place ∧
      t.node? (place ++ ["config.toml"]) = some (.file content) ∧
      reset t home = .ok (t.erase (place ++ ["config.toml"])) := by
  have hfound := h
  rw [filePath_eq] at hfound
  obtain ⟨place, hplace⟩ := FileTree.leadsTo_of_find_append hfound
  have hnode := hplace.find_append isEntryName_file
  rw [hfound] at hnode
  have hlocate := hplace.locate_append isEntryName_file
  rw [← filePath_eq] at hlocate
  refine ⟨place, hplace, hnode.symm, ?_⟩
  simp only [reset, FileTree.contains, h, Except.toOption, Option.isSome_some, Bool.not_true,
    Bool.false_eq_true, if_false, FileTree.removeFile, hlocate, ← hnode]

/-- Without their file preferences are empty, and can be written. -/
theorem usable_erased {place : Path} (hplace : t.LeadsTo (directoryPath home) place)
    (hfile : t.node? (place ++ ["config.toml"]) ≠ some .directory) :
    load (t.erase (place ++ ["config.toml"])) home = .ok empty ∧
      (save (t.erase (place ++ ["config.toml"])) home empty).1 = none := by
  have hleft := hplace.erase hfile
  have hgone : (t.erase (place ++ ["config.toml"])).node? (place ++ ["config.toml"]) = none := by
    rw [FileTree.node?_erase_entry, if_pos rfl]
  constructor
  · have hnone := hleft.find_append isEntryName_file
    rw [hgone, ← filePath_eq] at hnone
    rw [load_eq, hnone]
    rfl
  · apply writable_of_leadsTo hleft
    rw [hgone]
    exact (Option.some_ne_none _).symm

/-- Resetting preferences that are read leaves none, and no file in their way. -/
theorem reset_usable (h : IsUsable t home) :
    ∃ u, reset t home = .ok u ∧ load u home = .ok empty ∧ (save u home empty).1 = none := by
  obtain ⟨p, hload⟩ := h.readable
  cases hfind : t.find (filePath home) with
  | error cause =>
    have hempty : load t home = .ok empty := by
      rw [load_eq, hfind]
      rfl
    refine ⟨t, ?_, hempty, h.writable⟩
    simp only [reset, FileTree.contains, hfind, Except.toOption]
    rfl
  | ok n =>
    cases n with
    | file content =>
      obtain ⟨place, hplace, hnode, hreset⟩ := reset_found hfind
      have hfile : t.node? (place ++ ["config.toml"]) ≠ some .directory := by
        rw [hnode]
        intro hdirectory
        cases hdirectory
      exact ⟨_, hreset, usable_erased hplace hfile⟩
    | directory =>
      -- a directory is not read
      rw [load_eq, hfind] at hload
      cases hload

theorem store_loaded {p : Preferences} (h : load t home = .ok p) (name text : String) :
    Preferences.store t home name text = save t home (p.set name text) := by
  unfold Preferences.store
  rw [h]

theorem clear_kept {p : Preferences} {name : String} (h : load t home = .ok p)
    (hname : (p.get? name).isSome = true) :
    Preferences.clear t home name = save t home (p.erase name) := by
  rw [Preferences.clear, h]
  exact if_pos hname

theorem clear_absent {p : Preferences} {name : String} (h : load t home = .ok p)
    (hname : p.get? name = none) : Preferences.clear t home name = (none, t) := by
  rw [Preferences.clear, h]
  simp only [hname, Option.isSome_none, Bool.false_eq_true, if_false]

/-- A change succeeds and leaves the preferences that it makes, in a file as usable as before. -/
theorem IsUsable.apply (h : IsUsable t home) {p : Preferences} (hload : load t home = .ok p)
    (c : Change) :
    ∃ u, c.apply home t = .ok u ∧ IsUsable u home ∧ load u home = .ok (c.effect p) := by
  have hsaved {q : Preferences} (hq : q.IsSorted) :
      ∃ u, save t home q = (none, u) ∧ IsUsable u home ∧ load u home = .ok q := by
    obtain ⟨made, place, -, -, hsave⟩ := save_eq h.writable
    have hkept := load_saved hq (hsave q)
    exact ⟨_, hsave q, ⟨⟨q, hkept⟩, writable_of_saved (hsave q)⟩, hkept⟩
  have hsorted := isSorted_of_load hload
  cases c with
  | store name text =>
    obtain ⟨u, hsave, hu, hkept⟩ := hsaved (hsorted.set name text)
    refine ⟨u, ?_, hu, hkept⟩
    rw [Change.apply, store_loaded hload, hsave]
    rfl
  | clear name =>
    cases hname : p.get? name with
    | some text =>
      obtain ⟨u, hsave, hu, hkept⟩ := hsaved (hsorted.erase name)
      refine ⟨u, ?_, hu, hkept⟩
      rw [Change.apply, clear_kept hload (by rw [hname]; rfl), hsave]
      rfl
    | none =>
      refine ⟨t, ?_, h, ?_⟩
      · rw [Change.apply, clear_absent hload hname]
        rfl
      · rw [Change.effect, erase_eq_self hname, hload]
  | reset =>
    obtain ⟨u, hreset, hempty, hwritable⟩ := reset_usable h
    exact ⟨u, hreset, ⟨⟨empty, hempty⟩, hwritable⟩, hempty⟩

theorem IsUsable.foldlM_apply (h : IsUsable t home) {p : Preferences}
    (hload : load t home = .ok p) (changes : List Change) :
    ∃ u, changes.foldlM (Change.apply home) t = .ok u ∧ IsUsable u home ∧
      load u home = .ok (changes.foldl Change.effect p) := by
  induction changes generalizing t p with
  | nil => exact ⟨t, rfl, h, hload⟩
  | cons c changes ih =>
    obtain ⟨u, hfirst, hu, hloaded⟩ := h.apply hload c
    obtain ⟨v, hrest, hv, hlast⟩ := ih hu hloaded
    refine ⟨v, ?_, hv, hlast⟩
    rw [List.foldlM_cons, hfirst]
    exact hrest

theorem value?_of_load {p : Preferences} (h : load t home = .ok p) (name : String) :
    value? t home name = p.get? name := by
  rw [value?, h]
  rfl

/-- Changes of preferences that can be read and written all succeed.  A name then has the text that
they store under it last, or what it had before if none touches it, and a change of one name leaves
all others as they are. -/
theorem preferences_behave_as_a_map (h : IsUsable t home) (changes : List Change) :
    ∃ u, changes.foldlM (Change.apply home) t = .ok u ∧ IsUsable u home ∧
      (∀ name text, value? u home name = some text ↔
        LastStores changes name text ∨
          (∀ c ∈ changes, ¬ c.Touches name) ∧ value? t home name = some text) ∧
      ∀ c : Change, ∃ v, c.apply home u = .ok v ∧
        ∀ name, ¬ c.Touches name → value? v home name = value? u home name := by
  obtain ⟨p, hload⟩ := h.readable
  obtain ⟨u, hrun, hu, hlast⟩ := h.foldlM_apply hload changes
  refine ⟨u, hrun, hu, ?_, ?_⟩
  · intro name text
    rw [value?_of_load hlast, value?_of_load hload, get?_foldl_effect]
  · intro c
    obtain ⟨v, hchange, -, hafter⟩ := hu.apply hlast c
    refine ⟨v, hchange, fun name hname => ?_⟩
    rw [value?_of_load hafter, value?_of_load hlast]
    apply Option.ext
    intro text
    rw [c.get?_effect]
    have hother : c ≠ .store name text := by
      rintro rfl
      exact hname rfl
    simp [hname, hother]

/-- Changes under names and of texts with quotes of both kinds, line breaks and control
characters. -/
def oddChanges : List Change :=
  [.store "" "\x01", .store "a.b" "'''\n\"\"\"", .store "\"\n'" "\\\r\n", .clear "a.b",
    .store "" "\n", .clear "absent"]

/-- A home directory, empty so far. -/
def newHome : FileTree :=
  ⟨[(["home"], .directory)]⟩

theorem isUsable_newHome : IsUsable newHome ⟨"/home", ["home"]⟩ := by
  have hpath : homePath ⟨"/home", ["home"]⟩ = ["home"] := by
    rw [homePath, directoryPath, Path.ofText_eq]
    decide +kernel
  have hhome : newHome.LeadsTo (homePath ⟨"/home", ["home"]⟩) ["home"] := by
    rw [hpath]
    exact ⟨rfl, rfl⟩
  exact isUsable_of_absent hhome rfl rfl

theorem odd_preferences_are_kept :
    let home : Home := ⟨"/home", ["home"]⟩
    IsUsable newHome home ∧ ∃ u, oddChanges.foldlM (Change.apply home) newHome = .ok u ∧
      value? u home "" = some "\n" ∧ value? u home "a.b" = none ∧
      value? u home "\"\n'" = some "\\\r\n" := by
  intro home
  obtain ⟨u, hrun, -, hvalue, -⟩ := preferences_behave_as_a_map isUsable_newHome oddChanges
  refine ⟨isUsable_newHome, u, hrun, ?_, ?_, ?_⟩
  · rw [hvalue]
    left
    simp [oddChanges, lastStores_cons, not_lastStores_nil, Change.Touches]
  · rw [Option.eq_none_iff_forall_ne_some]
    intro text
    rw [Ne, hvalue]
    simp [oddChanges, lastStores_cons, not_lastStores_nil, Change.Touches]
  · rw [hvalue]
    left
    simp [oddChanges, lastStores_cons, not_lastStores_nil, Change.Touches]

end Gradebook.Preferences
