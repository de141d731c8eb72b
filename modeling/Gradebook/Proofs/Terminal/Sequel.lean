import Gradebook.Proofs.Settings.File
import Gradebook.Proofs.Terminal.Frame

/-!
# Runs that follow runs

What a run of a line leaves for the next one: the same context, and a directory in which the
collections are stored as the line left them and can be saved again.
-/

namespace Gradebook

open CollectionStore (load)
open FileTree (LeadsTo AgreesBut)
open FolderStore (ownNames)

theorem FolderStore.canSave_of_agreesBut {names : List String} {t u : FileTree}
    {directory base : Path} (h : t.AgreesBut names u) (hbase : t.LeadsTo directory base)
    (c : Collection) :
    (FolderStore.mk u directory).CanSave c ↔ (FolderStore.mk t directory).CanSave c := by
  have hafter := (h.leadsTo_iff directory base).2 hbase
  rw [canSave_iff (s := ⟨u, directory⟩) (FileTree.reachDirectory_of_leadsTo hafter) hafter,
    canSave_iff (s := ⟨t, directory⟩) (FileTree.reachDirectory_of_leadsTo hbase) hbase]
  simp only [Ne, h.directory_iff]

namespace Terminal

/-- The names of the files that runs of lines for a student change. -/
def changedNames : List String :=
  "config.toml" :: ownNames

/-- What runs of lines make of a tree: other files stay, and so does the data directory in the
preferences. -/
structure Follows (home : Option Preferences.Home) (t u : FileTree) : Prop where
  agrees : t.AgreesBut changedNames u
  directory : Preferences.value? u home dataDirectoryName =
    Preferences.value? t home dataDirectoryName

variable {home : Option Preferences.Home} {t u v : FileTree}

theorem Follows.refl (home : Option Preferences.Home) (t : FileTree) : Follows home t t :=
  ⟨.refl _ t, rfl⟩

theorem Follows.trans (h : Follows home t u) (k : Follows home u v) : Follows home t v :=
  ⟨h.agrees.trans k.agrees, k.directory.trans h.directory⟩

theorem follows_of_ownNames (h : t.AgreesBut ownNames u) : Follows home t u where
  agrees := h.mono (List.subset_cons_self _ _)
  directory := by
    rw [Preferences.value?, Preferences.value?, Preferences.load_of_agreesBut h (by decide)]

/-- Taking the remembered student out of the preferences leaves the data directory in them. -/
theorem follows_of_clear (h : Preferences.clear t home selectionName = (none, u)) :
    Follows home t u := by
  obtain ⟨p, hbefore, hafter⟩ := Preferences.load_cleared h
  obtain ⟨left, hclear, hrewrites⟩ := Preferences.clear_loaded hbefore selectionName
  cases h.symm.trans hclear
  refine ⟨hrewrites.agreesBut.mono (by simp [changedNames]), ?_⟩
  have hname : dataDirectoryName ≠ selectionName := by decide
  have hget := p.get?_erase selectionName dataDirectoryName
  rw [if_neg hname] at hget
  simp only [Preferences.value?, hbefore, hafter, Except.toOption, Option.bind_some, hget]

/-- The settings that are asked for, if any, are in no file that runs of lines change. -/
def General.SettingsApart (general : General) (workingDirectory : Path) : Prop :=
  ∀ name ∈ general.settings, Settings.IsApart changedNames workingDirectory name

/-- Nor are the settings beside the preferences. -/
theorem isApart_settingsName {general : General} {workingDirectory : Path}
    (h : general.SettingsApart workingDirectory) (home : Option Preferences.Home) :
    ∀ name ∈ settingsName general home, Settings.IsApart changedNames workingDirectory name := by
  intro name hname
  cases hsettings : general.settings with
  | some asked =>
    rw [settingsName, hsettings] at hname
    cases hname
    exact h name hsettings
  | none =>
    rw [settingsName, hsettings] at hname
    obtain ⟨there, -, rfl⟩ := Option.map_eq_some_iff.1 hname
    have hsplit : Preferences.directoryName there ++ "/tutor.toml" =
        Preferences.directoryName there ++ "/" ++ "tutor.toml" := by
      have hslash : "/tutor.toml" = "/" ++ "tutor.toml" := by decide
      rw [hslash, String.append_assoc]
    have hapart : ∀ n ∈ Settings.fileNames "tutor.toml",
        FileTree.IsEntryName n ∧ n ∉ changedNames := by
      unfold FileTree.IsEntryName
      decide
    intro last hlast
    rw [hsplit, Path.ofText_name (by decide), List.getLast?_concat] at hlast
    cases hlast
    exact hapart

theorem contextOf_of_follows {general : General} {environment : List (String × String)}
    {workingDirectory : Path} (hsettings : general.SettingsApart workingDirectory)
    (h : Follows home t u) :
    contextOf general environment home workingDirectory u =
      contextOf general environment home workingDirectory t := by
  have hload := Settings.load_of_agreesBut h.agrees (isApart_settingsName hsettings home)
    environment
  simp only [contextOf, hload, h.directory]

variable {κ : Type}

/-- The directory of the desktop is there, and in it all collections are stored as they are in
memory and can be saved. -/
structure IsStored (w : Desktop κ) : Prop where
  place : ∃ base, w.tree.LeadsTo w.store.directory base
  savable : ∀ c, w.store.CanSave c
  stored : ∀ c, load w.store c = .ok (w.records c)

theorem IsStored.loadLedgers {w : Desktop κ} (h : IsStored w) :
    Workbook.loadLedgers w.store = .ok w.desk.ledgers :=
  Workbook.loadLedgers_eq h.stored

/-- A line is followed by the saves of what it changed, which succeed. -/
theorem IsStored.runCommand [IdClock κ] {w : Desktop κ} (h : IsStored w) (line : String) :
    IsStored (w.runCommand line).2 ∧ w.tree.AgreesBut ownNames (w.runCommand line).2.store.tree := by
  obtain ⟨base, hbase⟩ := h.place
  let unsaved : Desktop κ := ⟨(w.desk.run w.current line).2, w.store, w.current⟩
  have hrecords := Workbook.records_of_memory
    (unsaved.memory_persist (w.desk.run w.current line).1.touched)
  refine ⟨⟨⟨base, Workbook.leadsTo_runCommand hbase line⟩, ?_, ?_⟩,
    Workbook.agreesBut_runCommand hbase line⟩
  · intro c
    exact (unsaved.canSave_persist _ c).2 (h.savable c)
  · intro c
    have hsettled : w.store.IsSettled := (FolderStore.keepsView_of_leadsTo hbase).isSettled
    have hload : load (unsaved.persist (w.desk.run w.current line).1.touched).store c =
        .ok (unsaved.records c) := by
      apply Workbook.load_persist_saved (w := unsaved) (h.savable c)
      by_cases hc : c ∈ (w.desk.run w.current line).1.touched
      · exact .inl hc
      · have hsame : unsaved.records c = w.records c := w.desk.run_unsaved w.current line hc
        rw [hsame]
        exact .inr ⟨hsettled, h.stored c⟩
    rw [← hrecords] at hload
    exact hload

/-- A directory with students in which every collection can be saved is opened as it is stored. -/
theorem Context.open_stored {ctx : Context} {tree : FileTree} {ledgers : Ledgers}
    (hledgers : Workbook.loadLedgers (FolderStore.mk tree ctx.dataDirectory) = .ok ledgers)
    (hroster : ledgers.roster ≠ [])
    (hsaves : ∀ c, (FolderStore.mk tree ctx.dataDirectory).CanSave c) (clock : κ) :
    ∃ w, ctx.open tree clock = .ok w ∧ w.desk.ledgers = ledgers ∧
      w.store.directory = ctx.dataDirectory ∧ IsStored w ∧ Follows ctx.home tree w.tree := by
  obtain ⟨w, hopen, hdesk, -, hdirectory, hknown, hstranger⟩ := Context.open_loaded hledgers clock
  obtain ⟨base, hbase, hplace⟩ := Context.leadsTo_of_open hledgers hopen hroster
  have hfollows : Follows ctx.home tree w.tree := by
    by_cases hmeets : ctx.MeetsStranger tree ledgers
    · exact follows_of_clear (hstranger hmeets)
    · rw [hknown hmeets]
      exact .refl _ _
  have hstore : w.store = ⟨w.tree, ctx.dataDirectory⟩ := by
    rw [← hdirectory]
    rfl
  refine ⟨w, hopen, hdesk, hdirectory, ⟨⟨base, ?_⟩, ?_, ?_⟩, hfollows⟩
  · rwa [hdirectory]
  · intro c
    rw [hstore]
    exact (FolderStore.canSave_of_agreesBut hfollows.agrees hbase c).2 (hsaves c)
  · intro c
    have hkept : load (FolderStore.mk w.tree ctx.dataDirectory) c =
        load (FolderStore.mk tree ctx.dataDirectory) c := by
      obtain ⟨f, hfailed⟩ | ⟨v, hopened, hrewrites⟩ := ctx.open_cases tree clock
      · cases hopen.symm.trans hfailed
      · cases hopen.symm.trans hopened
        rw [FolderStore.load_eq, FolderStore.load_eq, hrewrites.keepsCollections]
    rw [hstore, hkept, Workbook.records, hdesk]
    exact Workbook.loadLedgers_ok hledgers c

end Terminal

end Gradebook
