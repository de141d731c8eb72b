import Gradebook.Proofs.Store.Folder

/-!
# Saves in a directory are all or nothing

A save that succeeds leaves the records to be loaded and no temporary file; a save that fails
leaves every collection as it was.  What a failed save does leave, a temporary file and directories
on the way, is seen by no later load and decides no later save.
-/

namespace Gradebook

open CollectionStore (load save)
open FileTree (LeadsTo)

namespace FolderStore

theorem save_succeeds_iff (s : FolderStore) (c : Collection) (records : List c.Record) :
    (save s c records).1 = none ↔ ∃ made, s.tree.makeDirectories s.directory = .ok made ∧
      made.isDirectory (s.temporaryPath c) = false ∧ made.isDirectory (s.filePath c) = false := by
  rw [save_eq]
  constructor
  · intro h
    cases hreach : s.tree.reachDirectory s.directory with
    | mk problem made =>
      cases problem with
      | some p =>
        rw [write_unreached hreach] at h
        cases h
      | none =>
        obtain ⟨base, hbase⟩ := FileTree.leadsTo_reachDirectory hreach
        refine ⟨made, FileTree.makeDirectories_of_reach hreach, ?_⟩
        rw [temporaryPath, filePath,
          hbase.isDirectory_append_eq_false (isEntryName_temporaryName c),
          hbase.isDirectory_append_eq_false (isEntryName_fileName c)]
        rw [write_made hreach, write_there (s := { s with tree := made }) hbase] at h
        split at h
        · cases h
        next htemp =>
          split at h
          · cases h
          next hfile => exact ⟨htemp, hfile⟩
  · rintro ⟨made, hmake, htemp, hfile⟩
    obtain ⟨base, hbase⟩ := FileTree.leadsTo_makeDirectories hmake
    rw [temporaryPath, hbase.isDirectory_append_eq_false (isEntryName_temporaryName c)] at htemp
    rw [filePath, hbase.isDirectory_append_eq_false (isEntryName_fileName c)] at hfile
    exact write_succeeds c _ (FileTree.makeDirectories_ok hmake) hbase htemp hfile

/-- What stands at the path of a collection's temporary file. -/
def leftover? (s : FolderStore) (c : Collection) : Option Node :=
  (s.tree.find (s.temporaryPath c)).toOption

theorem leftover?_saved {s : FolderStore} {c : Collection} {records : List c.Record}
    (h : (save s c records).1 = none) : (save s c records).2.leftover? c = none := by
  rw [save_eq] at h ⊢
  simp only at h
  obtain ⟨p, hfault, -⟩ | ⟨made, base, -, hleaves⟩ := write_spec (Prod.eta _).symm
  · rw [h] at hfault
    cases hfault
  · rw [leftover?, temporaryPath, hleaves.stays.find_append (isEntryName_temporaryName c)]
    exact hleaves.temporary h

theorem stored?_save_of_keepsView {s : FolderStore} (hs : s.KeepsView) {c d : Collection}
    (records : List c.Record) (h : d ≠ c ∨ (save s c records).1 ≠ none) :
    (save s c records).2.stored? d = s.stored? d := by
  obtain hsame | ⟨made, hmake, hmade⟩ := stored?_save records h
  · exact hsame
  · rw [hmade, hs made hmake d]

/-- Whatever the directory's path, a save makes directories where nothing stands and changes no
other place than those of its temporary file and, where it succeeds, of its collection's file. -/
theorem node?_save (s : FolderStore) (c : Collection) (records : List c.Record) (place : Path) :
    (save s c records).2.tree.node? place = s.tree.node? place ∨
      (s.tree.node? place = none ∧
        (save s c records).2.tree.node? place = some .directory) ∨
      ∃ base, (save s c records).2.tree.LeadsTo s.directory base ∧
        (place = base ++ [temporaryName c] ∨
          (save s c records).1 = none ∧ place = base ++ [fileName c]) := by
  rw [save_eq]
  obtain ⟨p, -, hreach⟩ | ⟨made, base, hreach, hleaves⟩ := write_spec (Prod.eta _).symm
  · obtain hsame | hmade := FileTree.addsDirectories_makeDirectoriesUp _ hreach place
    · exact .inl hsame
    · exact .inr (.inl hmade)
  · have hfrom : ∀ {there : Option Node}, there = made.node? place →
        there = s.tree.node? place ∨ s.tree.node? place = none ∧ there = some .directory := by
      rintro there rfl
      exact FileTree.addsDirectories_makeDirectoriesUp _ hreach place
    by_cases htemp : place = base ++ [temporaryName c]
    · exact .inr (.inr ⟨base, hleaves.stays, .inl htemp⟩)
    by_cases hfile : place = base ++ [fileName c]
    · cases hsaved : (s.write c (encode c records)).1 with
      | none => exact .inr (.inr ⟨base, hleaves.stays, .inr ⟨rfl, hfile⟩⟩)
      | some f =>
        have hsame := hleaves.file
        rw [hsaved, ← hfile] at hsame
        exact (hfrom hsame).imp_right .inl
    · exact (hfrom (hleaves.elsewhere place htemp hfile)).imp_right .inl

/-! ### Saves one after another -/

/-- Makes saves one after another, whether or not those before succeed. -/
def saveAll (s : FolderStore) :
    List ((c : Collection) × List c.Record) → List (Option Fault) × FolderStore
  | [] => ([], s)
  | ⟨c, records⟩ :: saves =>
    let (fault, after) := save s c records
    let (faults, last) := after.saveAll saves
    (fault :: faults, last)

theorem saveAll_cons (s : FolderStore) (c : Collection) (records : List c.Record)
    (saves : List ((c : Collection) × List c.Record)) :
    s.saveAll (⟨c, records⟩ :: saves) =
      ((save s c records).1 :: ((save s c records).2.saveAll saves).1,
        ((save s c records).2.saveAll saves).2) := rfl

/-- Two stores that no later saves and loads tell apart: of any saves the same succeed, and after
them the same is loaded. -/
def SameFuture (s u : FolderStore) : Prop :=
  ∀ saves, (u.saveAll saves).1.map Option.isNone = (s.saveAll saves).1.map Option.isNone ∧
    ∀ d, load (u.saveAll saves).2 d = load (s.saveAll saves).2 d

/-- Two stores in one directory, whose collection files stand alike, and where a directory is in
the way of a temporary file of both or of neither. -/
structure Twins (s u : FolderStore) (base : Path) : Prop where
  directory : u.directory = s.directory
  first : s.tree.LeadsTo s.directory base
  second : u.tree.LeadsTo u.directory base
  files : ∀ c, u.tree.node? (base ++ [fileName c]) = s.tree.node? (base ++ [fileName c])
  blocked : ∀ c, u.tree.node? (base ++ [temporaryName c]) = some .directory ↔
    s.tree.node? (base ++ [temporaryName c]) = some .directory

theorem Twins.refl {s : FolderStore} {base : Path} (h : s.tree.LeadsTo s.directory base) :
    Twins s s base :=
  ⟨rfl, h, h, fun _ => rfl, fun _ => Iff.rfl⟩

theorem Twins.load_eq {s u : FolderStore} {base : Path} (h : Twins s u base) (c : Collection) :
    load u c = load s c := by
  rw [load_of_leadsTo h.second, load_of_leadsTo h.first, h.files]

/-- No save makes or removes a directory in the way of a temporary file. -/
theorem blocked_write {s : FolderStore} {base : Path} (hbase : s.tree.LeadsTo s.directory base)
    (c : Collection) (text : String) (d : Collection) :
    (s.write c text).2.node? (base ++ [temporaryName d]) = some .directory ↔
      s.tree.node? (base ++ [temporaryName d]) = some .directory := by
  by_cases hd : d = c
  · subst hd
    rw [write_there hbase]
    split
    next => rfl
    next htemp =>
      refine ⟨fun hdir => absurd hdir ?_, fun hdir => absurd hdir htemp⟩
      split
      · rw [FileTree.node?_put_entry, if_pos rfl]
        exact nofun
      · rw [FileTree.node?_put_entry, if_neg (fileName_ne_temporaryName d d).symm,
          FileTree.node?_erase_entry, if_pos rfl]
        exact nofun
  · rw [(leaves_there hbase c text).elsewhere]
    · rw [Ne, FileTree.append_singleton_inj]
      exact temporaryName_ne hd
    · rw [Ne, FileTree.append_singleton_inj]
      exact (fileName_ne_temporaryName c d).symm

theorem Twins.write {s u : FolderStore} {base : Path} (h : Twins s u base) (c : Collection)
    (text : String) :
    (u.write c text).1 = (s.write c text).1 ∧
      Twins ⟨(s.write c text).2, s.directory⟩ ⟨(u.write c text).2, u.directory⟩ base := by
  have hfault : (u.write c text).1 = (s.write c text).1 := by
    rw [write_there h.second, write_there h.first]
    simp only [h.blocked c, h.files c]
    split
    · rfl
    · split <;> rfl
  refine ⟨hfault, h.directory, (leaves_there h.first c text).stays,
    (leaves_there h.second c text).stays, ?_, ?_⟩
  · intro d
    rw [(leaves_there h.second c text).entry (fileName_ne_temporaryName d c),
      (leaves_there h.first c text).entry (fileName_ne_temporaryName d c), hfault, h.files d]
  · intro d
    rw [blocked_write h.second, blocked_write h.first, h.blocked d]

theorem Twins.saveAll {s u : FolderStore} {base : Path} (h : Twins s u base)
    (saves : List ((c : Collection) × List c.Record)) :
    (u.saveAll saves).1 = (s.saveAll saves).1 ∧
      Twins (s.saveAll saves).2 (u.saveAll saves).2 base := by
  induction saves generalizing s u with
  | nil => exact ⟨rfl, h⟩
  | cons first saves ih =>
    obtain ⟨c, records⟩ := first
    obtain ⟨hfault, hnext⟩ := h.write c (encode c records)
    obtain ⟨hfaults, hlast⟩ := ih hnext
    refine ⟨?_, hlast⟩
    rw [saveAll_cons, saveAll_cons]
    simp only [save_eq, hfault, hfaults]

/-! ### What a failed save leaves -/

/-- The store without a temporary file that was left behind. -/
def cleared (s : FolderStore) (c : Collection) : FolderStore :=
  match s.tree.removeFile (s.temporaryPath c) with
  | .ok tree => { s with tree }
  | .error _ => s

theorem cleared_cases (s : FolderStore) (c : Collection) :
    s.cleared c = s ∨ ∃ base, Twins s (s.cleared c) base := by
  unfold cleared
  cases hremove : s.tree.removeFile (s.temporaryPath c) with
  | error p => exact .inl rfl
  | ok tree =>
    unfold FileTree.removeFile at hremove
    cases hplace : s.tree.locate (s.temporaryPath c) with
    | error p => simp [hplace] at hremove
    | ok place =>
      obtain ⟨base, hbase⟩ := FileTree.leadsTo_of_locate_append hplace
      obtain rfl : base ++ [temporaryName c] = place := by
        rw [temporaryPath, hbase.locate_append (isEntryName_temporaryName c)] at hplace
        exact Except.ok.inj hplace
      simp only [hplace] at hremove
      split at hremove
      · cases hremove
      · cases hremove
      next hfile =>
        cases hremove
        have hnode : s.tree.node? (base ++ [temporaryName c]) ≠ some .directory := by
          intro hdir
          cases hfile.symm.trans hdir
        refine .inr ⟨base, rfl, hbase, hbase.erase hnode, ?_, ?_⟩
        · intro d
          rw [FileTree.node?_erase_entry, if_neg (fileName_ne_temporaryName d c)]
        · intro d
          rw [FileTree.node?_erase_entry]
          split
          next hname =>
            rw [hname]
            constructor
            · intro hdir
              cases hdir
            · intro hdir
              exact absurd hdir hnode
          next => rfl

theorem sameFuture_cleared (s : FolderStore) (c : Collection) : s.SameFuture (s.cleared c) := by
  intro saves
  obtain hsame | ⟨base, htwins⟩ := s.cleared_cases c
  · rw [hsame]
    exact ⟨rfl, fun _ => rfl⟩
  · obtain ⟨hfaults, hlast⟩ := htwins.saveAll saves
    exact ⟨congrArg _ hfaults, hlast.load_eq⟩

theorem saveAll_unreached {s : FolderStore} {p : FileProblem}
    (h : s.tree.reachDirectory s.directory = (some p, s.tree))
    (saves : List ((c : Collection) × List c.Record)) :
    s.saveAll saves = (saves.map fun _ => some (Fault.ofFileProblem p).value, s) := by
  induction saves with
  | nil => rfl
  | cons first saves ih =>
    obtain ⟨c, records⟩ := first
    have hsave : save s c records = (some (Fault.ofFileProblem p).value, s) := by
      rw [save_eq, write_unreached h]
    rw [saveAll_cons, hsave, ih, List.map_cons]

theorem saveAll_made {s : FolderStore} {made : FileTree}
    (hmake : s.tree.reachDirectory s.directory = (none, made))
    {saves : List ((c : Collection) × List c.Record)} (hsaves : saves ≠ []) :
    s.saveAll saves = saveAll { s with tree := made } saves := by
  cases saves with
  | nil => exact absurd rfl hsaves
  | cons first saves =>
    obtain ⟨c, records⟩ := first
    rw [saveAll_cons, saveAll_cons, save_eq, save_eq, write_made hmake]

/-- A failed save leaves what it found once the directory was made, but for the temporary file. -/
theorem twins_failed {s : FolderStore} {made : FileTree} {base : Path} {c : Collection}
    {records : List c.Record} (hmake : s.tree.reachDirectory s.directory = (none, made))
    (hbase : made.LeadsTo s.directory base) (hfailed : (save s c records).1 ≠ none) :
    Twins { s with tree := made } (save s c records).2 base := by
  rw [save_eq] at hfailed ⊢
  simp only [write_made hmake] at hfailed ⊢
  have hleaves := leaves_there (s := { s with tree := made }) hbase c (encode c records)
  refine ⟨rfl, hbase, hleaves.stays, ?_, blocked_write hbase c _⟩
  intro d
  rw [hleaves.entry (fileName_ne_temporaryName d c), if_neg]
  rintro ⟨hnone, -⟩
  exact hfailed (Option.isNone_iff_eq_none.1 hnone)

/-- After a failed save everything goes on as if it had not been attempted. -/
theorem sameFuture_failed {s : FolderStore} (hs : s.KeepsView) {c : Collection}
    {records : List c.Record} (hfailed : (save s c records).1 ≠ none) :
    s.SameFuture (save s c records).2 := by
  intro saves
  by_cases hsaves : saves = []
  · subst hsaves
    refine ⟨rfl, fun d => ?_⟩
    exact load_save hs.isSettled records (.inr hfailed)
  cases hmake : s.tree.reachDirectory s.directory with
  | mk problem made =>
    cases problem with
    | none =>
      obtain ⟨base, hbase⟩ := FileTree.leadsTo_reachDirectory hmake
      obtain ⟨hfaults, hlast⟩ := (twins_failed hmake hbase hfailed).saveAll saves
      rw [saveAll_made hmake hsaves, hfaults]
      exact ⟨rfl, hlast.load_eq⟩
    | some p =>
      -- no save ever reaches the directory, though another problem may end the later ones
      obtain ⟨q, hagain⟩ := FileTree.makeDirectoriesUp_again s.directory.reverse hmake
      have hrest := saveAll_unreached (s := { s with tree := made }) hagain
      have hsave : ∀ (d : Collection) (others : List d.Record),
          save s d others = (some (Fault.ofFileProblem p).value, { s with tree := made }) := by
        intro d others
        rw [save_eq, write_unreached hmake]
      cases saves with
      | nil => exact absurd rfl hsaves
      | cons first saves =>
        obtain ⟨d, others⟩ := first
        rw [saveAll_cons s, hsave, hsave, hrest, hrest]
        exact ⟨rfl, fun _ => rfl⟩

/-! ### All or nothing -/

/-- Saves that touch nothing but their own files.  A save succeeds when the directory can be made
and no directory is in the way of either file, and then its records are loaded and the temporary
file is gone.  An old temporary file decides no save and shows in no load. -/
structure SavesInPlace (s : FolderStore) : Prop where
  decided : ∀ (c : Collection) (records : List c.Record), (save s c records).1 = none ↔
    ∃ made, s.tree.makeDirectories s.directory = .ok made ∧
      made.isDirectory (s.temporaryPath c) = false ∧ made.isDirectory (s.filePath c) = false
  saved : ∀ {c : Collection} {records : List c.Record}, (save s c records).1 = none →
    load (save s c records).2 c = .ok records ∧ (save s c records).2.leftover? c = none
  touched : ∀ (c : Collection) (records : List c.Record) (place : Path),
    (save s c records).2.tree.node? place = s.tree.node? place ∨
      (s.tree.node? place = none ∧ (save s c records).2.tree.node? place = some .directory) ∨
      ∃ base, (save s c records).2.tree.LeadsTo s.directory base ∧
        (place = base ++ [temporaryName c] ∨
          (save s c records).1 = none ∧ place = base ++ [fileName c])
  keepsView : ∀ (c : Collection) (records : List c.Record), (save s c records).2.KeepsView
  leftover : ∀ c, s.SameFuture (s.cleared c)

/-- Saves that are all or nothing: a save changes no collection but its own, and that only where it
succeeds.  A failed save changes no later load and makes no later save fail. -/
structure AllOrNothing (s : FolderStore) : Prop extends SavesInPlace s where
  unsaved : ∀ {c : Collection} {records : List c.Record}, (save s c records).1 ≠ none →
    (save s c records).2.stored? c = s.stored? c ∧ load (save s c records).2 c = load s c
  others : ∀ {c d : Collection} (records : List c.Record), d ≠ c →
    (save s c records).2.stored? d = s.stored? d ∧ load (save s c records).2 d = load s d
  unnoticed : ∀ {c : Collection} {records : List c.Record}, (save s c records).1 ≠ none →
    s.SameFuture (save s c records).2

theorem savesInPlace (s : FolderStore) : s.SavesInPlace where
  decided := s.save_succeeds_iff
  saved hsaved := ⟨load_saved hsaved, leftover?_saved hsaved⟩
  touched := s.node?_save
  keepsView := s.keepsView_save
  leftover := s.sameFuture_cleared

theorem KeepsView.allOrNothing {s : FolderStore} (hs : s.KeepsView) : s.AllOrNothing where
  toSavesInPlace := s.savesInPlace
  unsaved hfailed :=
    ⟨stored?_save_of_keepsView hs _ (.inr hfailed), load_save hs.isSettled _ (.inr hfailed)⟩
  others _ hother :=
    ⟨stored?_save_of_keepsView hs _ (.inl hother), load_save hs.isSettled _ (.inl hother)⟩
  unnoticed hfailed := sameFuture_failed hs hfailed

end FolderStore

/-- Saves in a directory touch only their own files, and they are all or nothing where making the
directory brings no file into view, as it does for no directory that is there or whose path has no
steps up. -/
theorem saves_are_all_or_nothing :
    (∀ s : FolderStore, s.SavesInPlace) ∧ (∀ s : FolderStore, s.KeepsView → s.AllOrNothing) ∧
      ∀ s : FolderStore, s.tree.IsWellFormed →
        (s.tree.isDirectory s.directory = true ∨ ".." ∉ s.directory) → s.KeepsView := by
  refine ⟨FolderStore.savesInPlace, ?_, ?_⟩
  · intro s hs
    exact hs.allOrNothing
  · intro s htree hpath
    exact FolderStore.keepsView_of_wellFormed htree hpath

theorem saves_are_all_or_nothing_past_directory :
    let s : FolderStore := ⟨⟨[(["data", "tutor-students.json"], .directory),
      (["data"], .directory)]⟩, ["data"]⟩
    (FolderStore.mk .empty ["data"]).KeepsView ∧ s.KeepsView ∧ (save s .students []).1 ≠ none ∧
      load (save s .students []).2 .students = load s .students ∧
      ((save s .students []).2.saveAll [⟨.rewards, []⟩]).1.map Option.isNone = [true] := by
  intro s
  have hbase : s.tree.LeadsTo s.directory ["data"] := ⟨rfl, rfl⟩
  have hmake := FileTree.makeDirectories_of_leadsTo hbase
  have hview := FolderStore.keepsView_of_leadsTo hbase
  have hall := saves_are_all_or_nothing.2.1 s hview
  have hfailed : (save s .students []).1 ≠ none := by
    intro hsaved
    obtain ⟨made, hmade, -, hfile⟩ := (hall.decided .students []).1 hsaved
    rw [hmake] at hmade
    cases hmade
    have hthere : s.tree.isDirectory (s.filePath .students) = true := rfl
    rw [hthere] at hfile
    cases hfile
  have hother : (save s .rewards []).1 = none :=
    (hall.decided .rewards []).2 ⟨s.tree, hmake, rfl, rfl⟩
  have hlater := (hall.unnoticed hfailed [⟨.rewards, []⟩]).1
  rw [FolderStore.saveAll_cons s, hother] at hlater
  exact ⟨saves_are_all_or_nothing.2.2 _ FileTree.isWellFormed_empty (.inr (by decide)), hview,
    hfailed, (hall.unsaved hfailed).2, hlater⟩

theorem save_of_students_reveals_grades : ¬ FolderStore.hidden.AllOrNothing := by
  intro h
  have hload := (h.others (c := .students) (d := .grades) [] (by decide)).2
  rw [(FolderStore.save_hidden []).2, FolderStore.load_hidden] at hload
  cases hload

end Gradebook
