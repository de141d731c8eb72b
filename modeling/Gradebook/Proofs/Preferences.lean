import Gradebook.Preferences
import Gradebook.Proofs.Files.Names
import Gradebook.Proofs.Store.Folder

/-!
# Files of preferences

Taking a text out of the preferences rewrites at most the file of the preferences, and so changes
no collection file.  Where the home directory is there, keeping a text fails without a change.
-/

namespace Gradebook

open FileTree (LeadsTo KeepsDirectories IsEntryName)

namespace FileTree

variable {t : FileTree} {path place : Path} {name : String}

theorem reachDirectory_taken (h : t.LeadsTo path place) (hname : IsEntryName name)
    {content : Content}
    (hnode : t.node? (place ++ [name]) = some (.file content)) :
    t.reachDirectory (path ++ [name]) = (some .alreadyThere, t) := by
  have hlocate := h.locate_append hname
  have hreverse : (path ++ [name]).reverse = name :: path.reverse := List.reverse_concat
  have hback : (name :: path.reverse).reverse = path ++ [name] := by simp
  have hmake : t.makeDirectory (path ++ [name]) = .error .alreadyThere := by
    simp only [makeDirectory, hlocate, hnode]
  have hfile : t.isDirectory (path ++ [name]) = false := by
    rw [h.isDirectory_append_eq_false hname, hnode]
    simp
  rw [reachDirectory, hreverse, makeDirectoriesUp]
  simp only [hback, hmake, hfile, Bool.false_eq_true, if_false]

theorem reachDirectory_made (h : t.LeadsTo path place) (hname : IsEntryName name)
    (hnode : t.node? (place ++ [name]) = none) :
    t.reachDirectory (path ++ [name]) = (none, t.put (place ++ [name]) .directory) := by
  have hlocate := h.locate_append hname
  have hreverse : (path ++ [name]).reverse = name :: path.reverse := List.reverse_concat
  have hback : (name :: path.reverse).reverse = path ++ [name] := by simp
  have hmake : t.makeDirectory (path ++ [name]) = .ok (t.put (place ++ [name]) .directory) := by
    simp only [makeDirectory, hlocate, hnode]
  rw [reachDirectory, hreverse, makeDirectoriesUp]
  simp only [hback, hmake]

theorem leadsTo_made (h : t.LeadsTo path place) (hname : IsEntryName name)
    (hnode : t.node? (place ++ [name]) = none) :
    (t.put (place ++ [name]) .directory).LeadsTo (path ++ [name]) (place ++ [name]) := by
  have hkeeps : t.KeepsDirectories (t.put (place ++ [name]) .directory) := by
    apply keepsDirectories_put
    rw [hnode]
    exact nofun
  refine ⟨(h.keep hkeeps).locate_append hname, ?_⟩
  rw [node?_put t _ _ (by simp), if_pos rfl]

end FileTree

/-- Whichever directory they are looked for in, the files of all collections are as they were. -/
def FileTree.KeepsCollections (t u : FileTree) : Prop :=
  ∀ directory c, (FolderStore.mk u directory).stored? c = (FolderStore.mk t directory).stored? c

theorem FileTree.KeepsCollections.refl (t : FileTree) : t.KeepsCollections t :=
  fun _ _ => rfl

namespace Preferences

theorem directoryName_eq (home : Home) :
    ∃ front, directoryName home = front ++ "/" ++ ".tutor" := by
  unfold directoryName
  split
  next hslash =>
    obtain ⟨front, hfront⟩ := exists_of_endsWith_slash hslash
    exact ⟨front, by rw [hfront]⟩
  next =>
    have hsplit : "/.tutor" = "/" ++ ".tutor" := by decide
    exact ⟨home.name, by rw [hsplit, String.append_assoc]⟩

/-- The directory that the directory of the preferences lies in. -/
def homePath (home : Home) : Path :=
  (directoryPath home).dropLast

theorem directoryPath_eq (home : Home) : directoryPath home = homePath home ++ [".tutor"] := by
  obtain ⟨front, hfront⟩ := directoryName_eq home
  rw [homePath, directoryPath, hfront, Path.ofText_name (by decide), List.dropLast_concat]

theorem filePath_eq (home : Home) : filePath home = directoryPath home ++ ["config.toml"] := by
  obtain ⟨front, hfront⟩ := directoryName_eq home
  have hname : fileName home = front ++ "/" ++ ".tutor" ++ "/" ++ "config.toml" := by
    have hsplit : "/config.toml" = "/" ++ "config.toml" := by decide
    rw [fileName, hfront, hsplit, ← String.append_assoc]
  rw [filePath, hname, Path.ofText_append (by decide) (by decide), directoryPath, hfront]

/-! ### Rewriting the file -/

/-- The trees differ at most in what the file of preferences at some place holds. -/
def Rewrites (t u : FileTree) : Prop :=
  u = t ∨ ∃ front old new, t.node? (front ++ ["config.toml"]) = some (.file old) ∧
    u = t.put (front ++ ["config.toml"]) (.file new)

namespace Rewrites

variable {t u : FileTree}

theorem refl (t : FileTree) : Rewrites t t :=
  .inl rfl

theorem node?_eq_or (h : Rewrites t u) (place : Path) :
    u.node? place = t.node? place ∨
      ∃ front old new, place = front ++ ["config.toml"] ∧ t.node? place = some (.file old) ∧
        u.node? place = some (.file new) := by
  obtain rfl | ⟨front, old, new, hold, rfl⟩ := h
  · exact .inl rfl
  · have hroot : front ++ ["config.toml"] ≠ [] := by simp
    rw [FileTree.node?_put t _ _ hroot]
    by_cases hplace : place = front ++ ["config.toml"]
    · subst hplace
      exact .inr ⟨front, old, new, rfl, hold, if_pos rfl⟩
    · exact .inl (if_neg hplace)

theorem directory_iff (h : Rewrites t u) (place : Path) :
    u.node? place = some .directory ↔ t.node? place = some .directory := by
  obtain hsame | ⟨front, old, new, -, hold, hnew⟩ := h.node?_eq_or place
  · rw [hsame]
  · rw [hold, hnew]
    simp

theorem leadsTo_iff (h : Rewrites t u) (path place : Path) :
    u.LeadsTo path place ↔ t.LeadsTo path place := by
  constructor
  · intro hpath
    exact hpath.keep fun place hdir => (h.directory_iff place).1 hdir
  · intro hpath
    exact hpath.keep fun place hdir => (h.directory_iff place).2 hdir

theorem isWellFormed (h : Rewrites t u) (ht : t.IsWellFormed) : u.IsWellFormed := by
  intro place name hnode
  rw [h.directory_iff]
  apply ht place name
  obtain hsame | ⟨front, old, new, -, hold, -⟩ := h.node?_eq_or (place ++ [name])
  · rwa [← hsame]
  · rw [hold]
    exact Option.some_ne_none _

theorem keepsCollections (h : Rewrites t u) : t.KeepsCollections u := by
  intro directory c
  by_cases hthere : ∃ base, t.LeadsTo directory base
  · obtain ⟨base, hbase⟩ := hthere
    rw [FolderStore.stored?_of_leadsTo (s := ⟨t, directory⟩) hbase,
      FolderStore.stored?_of_leadsTo (s := ⟨u, directory⟩) ((h.leadsTo_iff _ _).2 hbase)]
    obtain hsame | ⟨front, old, new, hplace, -, -⟩ :=
      h.node?_eq_or (base ++ [FolderStore.fileName c])
    · exact hsame
    · have hlast : [FolderStore.fileName c] = ["config.toml"] := (List.append_inj' hplace rfl).2
      exact absurd (List.singleton_inj.1 hlast) (by cases c <;> decide)
  · have hbefore : ∀ base, ¬ t.LeadsTo directory base := fun base hbase => hthere ⟨base, hbase⟩
    have hafter : ∀ base, ¬ u.LeadsTo directory base := fun base hbase =>
      hbefore base ((h.leadsTo_iff _ _).1 hbase)
    rw [FolderStore.stored?_of_missing (s := ⟨t, directory⟩) hbefore,
      FolderStore.stored?_of_missing (s := ⟨u, directory⟩) hafter]

end Rewrites

/-! ### Taking a text out -/

theorem isEntryName_directory : IsEntryName ".tutor" := by
  unfold IsEntryName
  decide

theorem isEntryName_file : IsEntryName "config.toml" := by
  unfold IsEntryName
  decide

variable {t : FileTree} {home : Home} {place : Path}

theorem home_of_load {home : Option Home} {p : Preferences} (h : load t home = .ok p) :
    ∃ there : Home, home = there := by
  cases home with
  | none => cases h
  | some there => exact ⟨there, rfl⟩

/-- Preferences that are read are empty, or stand in a file. -/
theorem load_ok {p : Preferences} (h : load t home = .ok p) :
    (p = empty ∧ (t.find (filePath home)).toOption = none) ∨
      ∃ text, t.find (filePath home) = .ok (.file (.text text)) := by
  cases hfind : t.find (filePath home) with
  | error cause =>
    simp only [load, FileTree.contains, hfind] at h
    exact .inl ⟨(Except.ok.inj h).symm, rfl⟩
  | ok n =>
    simp only [load, FileTree.contains, FileTree.readText, hfind] at h
    cases n with
    | directory => cases h
    | file content =>
      cases content with
      | bytes b => cases h
      | text text => exact .inr ⟨text, rfl⟩

theorem load_malformed {text : String} (hfile : t.find (filePath home) = .ok (.file (.text text)))
    (htext : read? text = none) : load t home = .error .malformed := by
  simp only [load, FileTree.contains, FileTree.readText, hfile, htext]
  rfl

/-- In a directory that is there, preferences are kept unless a directory stands in their place. -/
theorem save_there (hplace : t.LeadsTo (directoryPath home) place)
    (hnode : t.node? (place ++ ["config.toml"]) ≠ some .directory) (p : Preferences) :
    save t home p = (none, t.put (place ++ ["config.toml"]) (.file (.text p.layout))) := by
  have hlocate := hplace.locate_append isEntryName_file
  simp only [save, FileTree.reachDirectory_of_leadsTo hplace, FileTree.writeText, filePath_eq,
    hlocate]

/-- In a home directory without preferences, their directory is made and they are kept. -/
theorem save_made (hhome : t.LeadsTo (homePath home) place)
    (hdirectory : t.node? (place ++ [".tutor"]) = none)
    (hfile : t.node? (place ++ [".tutor"] ++ ["config.toml"]) = none) (p : Preferences) :
    (save t home p).1 = none := by
  have hreach := FileTree.reachDirectory_made hhome isEntryName_directory hdirectory
  have hplace := FileTree.leadsTo_made hhome isEntryName_directory hdirectory
  rw [← directoryPath_eq] at hreach hplace
  have hfree : (t.put (place ++ [".tutor"]) .directory).node?
      (place ++ [".tutor"] ++ ["config.toml"]) ≠ some .directory := by
    rw [FileTree.node?_put t _ _ (by simp), if_neg (by simp), hfile]
    exact nofun
  have hsame : save t home p = save (t.put (place ++ [".tutor"]) .directory) home p := by
    simp only [save, hreach, FileTree.reachDirectory_of_leadsTo hplace]
  rw [hsame, save_there hplace hfree]

/-- Taking a text out of preferences that are read succeeds, and it rewrites their file at most. -/
theorem clear_loaded {home : Option Home} {p : Preferences} (hload : load t home = .ok p)
    (name : String) : ∃ u, clear t home name = (none, u) ∧ Rewrites t u := by
  obtain ⟨home, rfl⟩ := home_of_load hload
  simp only [clear, hload]
  cases hname : (p.get? name).isSome with
  | false => exact ⟨t, by simp only [Bool.false_eq_true, if_false], .refl t⟩
  | true =>
    obtain ⟨rfl, -⟩ | ⟨text, hfind⟩ := load_ok hload
    · cases hname
    · -- the file is there, so its directory is
      rw [filePath_eq] at hfind
      obtain ⟨place, hplace⟩ := FileTree.leadsTo_of_find_append hfind
      have hnode := hplace.find_append isEntryName_file
      rw [hfind] at hnode
      have hsave := save_there hplace (by rw [← hnode]; exact nofun) (p.erase name)
      refine ⟨(save t home (p.erase name)).2, ?_, ?_⟩
      · simp only [if_true, hsave]
      · rw [hsave]
        exact .inr ⟨place, .text text, _, hnode.symm, rfl⟩

theorem clear_cases (t : FileTree) (home : Option Home) (name : String) :
    (∃ p, clear t home name = (some p, t)) ∨
      ∃ u, clear t home name = (none, u) ∧ Rewrites t u := by
  cases hload : load t home with
  | error p => exact .inl ⟨p, by simp only [clear, hload]⟩
  | ok p => exact .inr (clear_loaded hload name)

/-! ### Keeping a text -/

/-- Where the home directory is there, preferences that are read fail to be kept only for a file
that stands in the place of their directory. -/
theorem save_failed (ht : t.IsWellFormed) (hhome : t.LeadsTo (homePath home) place)
    {p q : Preferences} (hload : load t home = .ok p) (h : (save t home q).1 ≠ none) :
    (save t home q).2 = t := by
  have hlocate := hhome.locate_append isEntryName_directory
  rw [← directoryPath_eq] at hlocate
  cases hnode : t.node? (place ++ [".tutor"]) with
  | some n =>
    cases n with
    | file content =>
      have hreach := FileTree.reachDirectory_taken hhome isEntryName_directory hnode
      rw [← directoryPath_eq] at hreach
      simp only [save, hreach]
    | directory =>
      -- the preferences are read, so they can be written
      have hplace : t.LeadsTo (directoryPath home) (place ++ [".tutor"]) := ⟨hlocate, hnode⟩
      have hfree : t.node? (place ++ [".tutor"] ++ ["config.toml"]) ≠ some .directory := by
        have hentry := hplace.find_append isEntryName_file
        rw [← filePath_eq] at hentry
        rw [← hentry]
        obtain ⟨-, hnone⟩ | ⟨text, hfind⟩ := load_ok hload
        · rw [hnone]
          exact nofun
        · rw [hfind]
          exact nofun
      rw [save_there hplace hfree] at h
      exact absurd rfl h
  | none =>
    -- the directory is made, and nothing stands in it
    have hempty : t.node? (place ++ [".tutor"] ++ ["config.toml"]) = none := by
      cases hfound : t.node? (place ++ [".tutor"] ++ ["config.toml"]) with
      | none => rfl
      | some n =>
        have habove := ht _ _ (by rw [hfound]; exact Option.some_ne_none n)
        cases hnode.symm.trans habove
    exact absurd (save_made hhome hnode hempty q) h

theorem store_unread {home : Option Home} {p : Problem} (h : load t home = .error p)
    (name text : String) : store t home name text = (some p, t) := by
  unfold store
  rw [h]

/-- The home directory, if there is one, is a directory of the tree. -/
def HoldsHome (t : FileTree) (home : Option Home) : Prop :=
  ∀ there ∈ home, t.isDirectory (homePath there) = true

theorem Rewrites.holdsHome {home : Option Home} {u : FileTree} (h : Rewrites t u)
    (hhome : HoldsHome t home) : HoldsHome u home := by
  intro there hthere
  obtain ⟨place, hplace⟩ := (FileTree.isDirectory_iff _ _).1 (hhome there hthere)
  exact (FileTree.isDirectory_iff _ _).2 ⟨place, (h.leadsTo_iff _ _).2 hplace⟩

theorem store_failed {home : Option Home} (ht : t.IsWellFormed) (hhome : HoldsHome t home)
    (name text : String) (h : (store t home name text).1 ≠ none) :
    (store t home name text).2 = t := by
  cases hload : load t home with
  | error p => rw [store_unread hload]
  | ok p =>
    obtain ⟨there, rfl⟩ := home_of_load hload
    obtain ⟨place, hplace⟩ := (FileTree.isDirectory_iff _ _).1 (hhome there rfl)
    unfold store at h ⊢
    rw [hload] at h ⊢
    exact save_failed ht hplace hload h

end Preferences

end Gradebook
