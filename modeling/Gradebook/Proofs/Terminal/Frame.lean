import Gradebook.Proofs.Preferences.RoundTrip
import Gradebook.Proofs.Terminal.Report

/-!
# What typed lines leave of other files

Lines that are carried out for a student change no file but those that collections are saved in, and
no directory: a student is found only on a roster that was loaded, so its directory is there.
-/

namespace Gradebook

open FileTree (LeadsTo AgreesBut)
open Preferences (Rewrites)

namespace FolderStore

/-- The names of the files that a store works with. -/
def ownNames : List String :=
  Collection.all.map fileName ++ Collection.all.map temporaryName

theorem fileName_mem_ownNames (c : Collection) : fileName c ∈ ownNames := by
  cases c <;> decide

theorem temporaryName_mem_ownNames (c : Collection) : temporaryName c ∈ ownNames := by
  cases c <;> decide

theorem agreesBut_save {s : FolderStore} {base : Path} (hbase : s.tree.LeadsTo s.directory base)
    (c : Collection) (records : List c.Record) :
    s.tree.AgreesBut ownNames (CollectionStore.save s c records).2.tree := by
  simp only [save_eq, write_there hbase]
  have hfile := fileName_mem_ownNames c
  have htemporary := temporaryName_mem_ownNames c
  split
  · exact .refl _ _
  next htemp =>
    have hwritten := FileTree.agreesBut_put htemporary (.text (encode c records)) htemp
    split
    · exact hwritten
    next hfree =>
      have hplain : (s.tree.put (base ++ [temporaryName c]) (.file (.text (encode c records)))).node?
          (base ++ [temporaryName c]) ≠ some .directory := by
        rw [FileTree.node?_put_entry, if_pos rfl]
        exact nofun
      have hgone := FileTree.agreesBut_erase htemporary hplain
      have hboth := hwritten.trans hgone
      refine hboth.trans (FileTree.agreesBut_put hfile _ fun hdirectory => hfree ?_)
      exact (hboth.directory_iff _).1 hdirectory

theorem leadsTo_of_loaded {s : FolderStore} {roster : Roster}
    (hload : CollectionStore.load s .students = .ok roster) (hroster : roster ≠ []) :
    ∃ base, s.tree.LeadsTo s.directory base := by
  apply Classical.byContradiction
  intro hmissing
  rw [load_of_missing fun base hbase => hmissing ⟨base, hbase⟩] at hload
  cases hload
  exact hroster rfl

end FolderStore

open FolderStore (ownNames)

namespace Workbook

variable {κ : Type}

theorem agreesBut_persist {w : Workbook FolderStore κ} {base : Path}
    (hbase : w.store.tree.LeadsTo w.store.directory base) (cs : List Collection) :
    w.store.tree.AgreesBut ownNames (w.persist cs).store.tree := by
  induction cs generalizing w with
  | nil => exact .refl _ _
  | cons c cs ih =>
    have hone : w.store.tree.AgreesBut ownNames (w.persistOne c).store.tree := by
      rw [store_persistOne]
      exact FolderStore.agreesBut_save hbase c _
    have hdirectory : (w.persistOne c).store.directory = w.store.directory := by
      rw [store_persistOne, FolderStore.save_eq]
    refine hone.trans (ih ?_)
    rw [hdirectory]
    exact (hone.leadsTo_iff _ _).2 hbase

variable [IdClock κ]

theorem agreesBut_runCommand {w : Workbook FolderStore κ} {base : Path}
    (hbase : w.store.tree.LeadsTo w.store.directory base) (line : String) :
    w.store.tree.AgreesBut ownNames (w.runCommand line).2.store.tree :=
  agreesBut_persist (w := ⟨(w.desk.run w.current line).2, w.store, w.current⟩) hbase _

theorem leadsTo_runCommand {w : Workbook FolderStore κ} {base : Path}
    (hbase : w.store.tree.LeadsTo w.store.directory base) (line : String) :
    (w.runCommand line).2.store.tree.LeadsTo (w.runCommand line).2.store.directory base := by
  rw [directory_runCommand]
  exact ((agreesBut_runCommand hbase line).leadsTo_iff _ _).2 hbase

end Workbook

namespace Terminal

variable {κ : Type}

theorem resolve_mem {w : Desktop κ} {key : String} {s : Student} (h : w.resolve key = some s) :
    s ∈ w.roster := by
  unfold Workbook.resolve at h
  cases hid : w.roster.get? key with
  | some found =>
    rw [hid] at h
    cases h
    exact List.mem_of_find?_eq_some hid
  | none =>
    rw [hid] at h
    exact List.mem_of_find?_eq_some h

/-- A key that means a student selects it, and any other key fails. -/
theorem selectFor_key (w : Desktop κ) (key : String) :
    selectFor w (some key) = match w.resolve key with
      | some s => .ok { w with current := some s.id }
      | none => .error (.unknownStudent key) := by
  unfold selectFor Desktop.target
  cases hresolve : w.resolve key with
  | none => simp only [hresolve]
  | some s =>
    have hhas : (w.roster.get? s.id).isSome = true :=
      (w.roster.has_iff s.id).2 (List.mem_map_of_mem (resolve_mem hresolve))
    obtain ⟨found, hfound⟩ := Option.isSome_iff_exists.1 hhas
    simp only [hresolve, Workbook.select, hfound]

/-- The student that the preferences remember is not on a roster. -/
def Context.MeetsStranger (ctx : Context) (tree : FileTree) (ledgers : Ledgers) : Prop :=
  ∃ id, Preferences.value? tree ctx.home selectionName = some id ∧ ledgers.roster.get? id = none

theorem load_of_value? {tree : FileTree} {home : Option Preferences.Home} {name text : String}
    (h : Preferences.value? tree home name = some text) :
    ∃ p, Preferences.load tree home = .ok p := by
  cases hload : Preferences.load tree home with
  | ok p => exact ⟨p, rfl⟩
  | error problem =>
    rw [Preferences.value?, hload] at h
    cases h

/-- Once the ledgers are loaded a workbook is opened, and only a stranger is taken out of the
preferences. -/
theorem Context.open_loaded {ctx : Context} {tree : FileTree} {ledgers : Ledgers}
    (h : Workbook.loadLedgers (FolderStore.mk tree ctx.dataDirectory) = .ok ledgers) (clock : κ) :
    ∃ w, ctx.open tree clock = .ok w ∧ w.desk.ledgers = ledgers ∧ w.desk.clock = clock ∧
      w.store.directory = ctx.dataDirectory ∧
      (¬ ctx.MeetsStranger tree ledgers → Desktop.tree w = tree) ∧
      (ctx.MeetsStranger tree ledgers →
        Preferences.clear tree ctx.home selectionName = (none, Desktop.tree w)) := by
  have hopen : Workbook.open (FolderStore.mk tree ctx.dataDirectory) clock .empty =
      .ok ⟨⟨ledgers, clock, .empty⟩, ⟨tree, ctx.dataDirectory⟩, none⟩ :=
    Workbook.open_eq (Workbook.loadLedgers_ok h) clock .empty
  have hroster : Workbook.roster (σ := FolderStore)
      ⟨⟨ledgers, clock, .empty⟩, ⟨tree, ctx.dataDirectory⟩, none⟩ = ledgers.roster := rfl
  unfold Context.open MeetsStranger
  simp only [hopen]
  cases hvalue : Preferences.value? tree ctx.home selectionName with
  | none =>
    refine ⟨_, rfl, rfl, rfl, rfl, fun _ => rfl, ?_⟩
    rintro ⟨id, hid, -⟩
    cases hid
  | some id =>
    simp only [Workbook.select, hroster]
    cases hfound : ledgers.roster.get? id with
    | some s =>
      refine ⟨_, rfl, rfl, rfl, rfl, fun _ => rfl, ?_⟩
      rintro ⟨other, hother, hnone⟩
      cases hother
      cases hfound.symm.trans hnone
    | none =>
      obtain ⟨p, hload⟩ := load_of_value? hvalue
      obtain ⟨u, hclear, -⟩ := Preferences.clear_loaded hload selectionName
      simp only [Workbook.fail, hclear]
      exact ⟨_, rfl, rfl, rfl, rfl, fun hknown => absurd ⟨id, rfl, hfound⟩ hknown, fun _ => rfl⟩

theorem Context.open_unloaded {ctx : Context} {tree : FileTree} {f : Fault}
    (h : Workbook.loadLedgers (FolderStore.mk tree ctx.dataDirectory) = .error f) (clock : κ) :
    ctx.open tree clock = .error (.fault f, tree) := by
  obtain ⟨g, hopen, hfailed⟩ | ⟨l, -, hloaded⟩ :=
    Workbook.open_cases (FolderStore.mk tree ctx.dataDirectory) clock .empty
  · cases h.symm.trans hfailed
    simp only [Context.open, hopen]
  · cases h.symm.trans hloaded

/-- The directory of a roster with students is there, also once the workbook is open. -/
theorem Context.leadsTo_of_open {ctx : Context} {tree : FileTree} {ledgers : Ledgers} {clock : κ}
    {w : Desktop κ}
    (h : Workbook.loadLedgers (FolderStore.mk tree ctx.dataDirectory) = .ok ledgers)
    (hopen : ctx.open tree clock = .ok w) (hroster : ledgers.roster ≠ []) :
    ∃ base, tree.LeadsTo ctx.dataDirectory base ∧ w.tree.LeadsTo ctx.dataDirectory base := by
  obtain ⟨base, hbase⟩ :=
    FolderStore.leadsTo_of_loaded (Workbook.loadLedgers_ok h .students) hroster
  refine ⟨base, hbase, ?_⟩
  obtain ⟨f, hfailed⟩ | ⟨v, hopened, hrewrites⟩ := ctx.open_cases tree clock
  · cases hopen.symm.trans hfailed
  · cases hopen.symm.trans hopened
    exact (hrewrites.leadsTo_iff _ _).2 hbase

variable [IdClock κ] {w : Desktop κ}

theorem agreesBut_runWords {ctx : Context}
    (hplace : w.roster ≠ [] → ∃ base, w.tree.LeadsTo w.store.directory base) (key : String)
    (words : List String) :
    w.tree.AgreesBut ownNames (runWords ctx w (some key) words).tree := by
  unfold runWords
  rw [selectFor_key]
  cases hresolve : w.resolve key with
  | none => exact .refl _ _
  | some s =>
    obtain ⟨base, hbase⟩ := hplace (List.ne_nil_of_mem (resolve_mem hresolve))
    have hrun := Workbook.agreesBut_runCommand (w := { w with current := some s.id }) hbase
      (" ".intercalate words)
    simp only
    split
    · exact hrun
    · exact hrun

theorem agreesBut_consoleStep {ctx : Context} {base : Path}
    (hbase : w.tree.LeadsTo w.store.directory base) {input : String} {items : List Print}
    {after : Desktop κ} (hstep : consoleStep ctx w input = some (items, after)) :
    w.tree.AgreesBut ownNames after.tree ∧ after.tree.LeadsTo after.store.directory base := by
  simp only [consoleStep] at hstep
  split at hstep
  · cases hstep
    exact ⟨.refl _ _, hbase⟩
  split at hstep
  · cases hstep
  · cases hstep
    exact ⟨Workbook.agreesBut_runCommand hbase _, Workbook.leadsTo_runCommand hbase _⟩

theorem agreesBut_consoleRun {ctx : Context} {base : Path}
    (hbase : w.tree.LeadsTo w.store.directory base) (lines : List String) :
    w.tree.AgreesBut ownNames (consoleRun ctx w lines).2.tree := by
  induction lines generalizing w with
  | nil => exact .refl _ _
  | cons input rest ih =>
    rw [consoleRun]
    cases hstep : consoleStep ctx w input with
    | none => exact .refl _ _
    | some result =>
      obtain ⟨hone, hafter⟩ := agreesBut_consoleStep hbase hstep
      exact hone.trans (ih hafter)

end Terminal

end Gradebook
