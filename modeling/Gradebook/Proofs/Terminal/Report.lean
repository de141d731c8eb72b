import Gradebook.Proofs.Store.AllOrNothing
import Gradebook.Proofs.Terminal.Session
import Gradebook.Proofs.Workbook.Rejection

/-!
# Reports of saved collections

The report of a line lists the collections that the line was to change as saved.  Those that can be
saved are, right after the line, in their files as they are in memory.  One that cannot be saved is
listed all the same, and its file stays as it was.
-/

namespace Gradebook

open CollectionStore (load save)

/-! ### Collections that can be saved -/

namespace FolderStore

/-- The directory can be made, and no directory is in the way of the collection's files. -/
def CanSave (s : FolderStore) (c : Collection) : Prop :=
  ∃ made, s.tree.makeDirectories s.directory = .ok made ∧
    made.isDirectory (s.temporaryPath c) = false ∧ made.isDirectory (s.filePath c) = false

theorem canSave_iff {s : FolderStore} {made : FileTree} {base : Path}
    (hreach : s.tree.reachDirectory s.directory = (none, made))
    (hbase : made.LeadsTo s.directory base) (c : Collection) :
    s.CanSave c ↔ made.node? (base ++ [temporaryName c]) ≠ some .directory ∧
      made.node? (base ++ [fileName c]) ≠ some .directory := by
  rw [← hbase.isDirectory_append_eq_false (isEntryName_temporaryName c),
    ← hbase.isDirectory_append_eq_false (isEntryName_fileName c)]
  have hmake := FileTree.makeDirectories_of_reach hreach
  constructor
  · rintro ⟨there, hthere, hfree⟩
    cases hmake.symm.trans hthere
    exact hfree
  · intro hfree
    exact ⟨made, hmake, hfree⟩

theorem not_canSave_of_reach {s : FolderStore} {p : FileProblem} {left : FileTree}
    (hreach : s.tree.reachDirectory s.directory = (some p, left)) (c : Collection) :
    ¬ s.CanSave c := by
  rintro ⟨made, hmake, -⟩
  cases hreach.symm.trans (FileTree.makeDirectories_ok hmake)

/-- No attempt to save, whether it succeeds or fails, decides what can be saved after it. -/
theorem canSave_save (s : FolderStore) (d : Collection) (records : List d.Record)
    (c : Collection) : (save s d records).2.CanSave c ↔ s.CanSave c := by
  have hsaved := s.save_succeeds_iff d records
  rw [save_eq] at hsaved ⊢
  obtain ⟨p, -, hreach⟩ | ⟨made, base, hreach, hleaves⟩ := write_spec (Prod.eta _).symm
  · obtain ⟨q, hagain⟩ := FileTree.makeDirectoriesUp_again s.directory.reverse hreach
    exact iff_of_false (not_canSave_of_reach (s := ⟨_, s.directory⟩) hagain c)
      (not_canSave_of_reach hreach c)
  · have hblocked := blocked_write (s := { s with tree := made }) hleaves.found d
      (encode d records) c
    rw [← write_made hreach] at hblocked
    rw [canSave_iff (s := ⟨_, s.directory⟩) (FileTree.reachDirectory_of_leadsTo hleaves.stays)
      hleaves.stays, canSave_iff hreach hleaves.found, Ne, hblocked,
      hleaves.entry (fileName_ne_temporaryName c d)]
    split
    next hfile =>
      -- where the file was saved no directory was in its way before
      have hfree := (canSave_iff hreach hleaves.found d).1
        (hsaved.1 (Option.isNone_iff_eq_none.1 hfile.1))
      rw [hfile.2]
      simp [hfree.2]
    next => rfl

end FolderStore

namespace Workbook

variable {κ : Type}

theorem canSave_persist (cs : List Collection) (w : Workbook FolderStore κ) (c : Collection) :
    (w.persist cs).store.CanSave c ↔ w.store.CanSave c := by
  induction cs generalizing w with
  | nil => rfl
  | cons d cs ih =>
    rw [persist_cons, ih, store_persistOne, FolderStore.canSave_save]

theorem directory_persist (cs : List Collection) (w : Workbook FolderStore κ) :
    (w.persist cs).store.directory = w.store.directory := by
  induction cs generalizing w with
  | nil => rfl
  | cons d cs ih =>
    rw [persist_cons, ih, store_persistOne, FolderStore.save_eq]

theorem directory_runCommand [IdClock κ] (w : Workbook FolderStore κ) (line : String) :
    (w.runCommand line).2.store.directory = w.store.directory :=
  directory_persist _ ⟨(w.desk.run w.current line).2, w.store, w.current⟩

/-- A collection that can be saved and is to be, or is stored already, is stored after the saves. -/
theorem load_persist_saved {cs : List Collection} {w : Workbook FolderStore κ} {c : Collection}
    (hcan : w.store.CanSave c)
    (h : c ∈ cs ∨ w.store.IsSettled ∧ CollectionStore.load w.store c = .ok (w.records c)) :
    CollectionStore.load (w.persist cs).store c = .ok (w.records c) := by
  induction cs generalizing w with
  | nil =>
    obtain hlisted | ⟨-, hload⟩ := h
    · cases hlisted
    · exact hload
  | cons d cs ih =>
    have hrecords : (w.persistOne d).records c = w.records c :=
      records_of_memory (w.memory_persistOne d) c
    rw [persist_cons, ← hrecords]
    apply ih
    · rwa [store_persistOne, FolderStore.canSave_save]
    by_cases hmem : c ∈ cs
    · exact .inl hmem
    rw [hrecords, store_persistOne]
    refine .inr ⟨(FolderStore.keepsView_save _ _ _).isSettled, ?_⟩
    by_cases hd : c = d
    · subst hd
      exact FolderStore.load_saved ((FolderStore.save_succeeds_iff _ _ _).2 hcan)
    · obtain hlisted | ⟨hsettled, hload⟩ := h
      · exact absurd ((List.mem_cons.1 hlisted).resolve_left hd) hmem
      · rwa [FolderStore.load_save hsettled _ (.inl hd)]

/-- A collection that is not to be saved, or cannot be, stays as it was. -/
theorem load_persist_unsaved {cs : List Collection} {w : Workbook FolderStore κ} {c : Collection}
    (hsettled : w.store.IsSettled) (h : c ∉ cs ∨ ¬ w.store.CanSave c) :
    CollectionStore.load (w.persist cs).store c = CollectionStore.load w.store c := by
  induction cs generalizing w with
  | nil => rfl
  | cons d cs ih =>
    have hone : CollectionStore.load (w.persistOne d).store c =
        CollectionStore.load w.store c := by
      rw [store_persistOne]
      apply FolderStore.load_save hsettled
      obtain hunlisted | hcannot := h
      · exact .inl (List.ne_of_not_mem_cons hunlisted)
      · by_cases hd : c = d
        · subst hd
          exact .inr fun hsaved => hcannot ((FolderStore.save_succeeds_iff _ _ _).1 hsaved)
        · exact .inl hd
    rw [persist_cons, ih, hone]
    · rw [store_persistOne]
      exact (FolderStore.keepsView_save _ _ _).isSettled
    · rw [store_persistOne, FolderStore.canSave_save]
      exact h.imp_left List.not_mem_of_not_mem_cons

end Workbook

namespace Terminal

/-! ### What is listed -/

/-- The names that a document lists under its entry for what is saved. -/
def savedNames : Json.Value → List String
  | .object members => ((members.lookup "saved").bind (·.listOf? Json.Value.string?)).getD []
  | _ => []

def Print.saved : Print → List String
  | .json v | .yaml v => savedNames v
  | _ => []

/-- An item names the collection as saved. -/
def Lists (items : List Print) (c : Collection) : Prop :=
  ∃ p ∈ items, c.name ∈ p.saved

instance (items : List Print) (c : Collection) : Decidable (Lists items c) :=
  inferInstanceAs (Decidable (∃ p ∈ items, c.name ∈ p.saved))

theorem saved_report {format : Format} (hformat : format ≠ .table) (line : String) (o : Outcome) :
    (report format line o).saved = o.touched.map Collection.name := by
  have hnames : (Json.Value.array (o.touched.map fun c => .string c.name)).listOf?
      Json.Value.string? = some (o.touched.map Collection.name) := by
    have hlist := listOf?_map (f := Json.Value.string) (g := Json.Value.string?) (fun _ => rfl)
      (o.touched.map Collection.name)
    rwa [List.map_map] at hlist
  have hsaved : savedNames (reportJson line o) = o.touched.map Collection.name := by
    have hlookup : [("command", Json.Value.string line), ("message", .string o.message),
        ("tone", .string (toneName o.tone)),
        ("saved", .array (o.touched.map fun c => .string c.name))].lookup "saved" =
          some (.array (o.touched.map fun c => .string c.name)) := rfl
    simp only [reportJson, savedNames, hlookup, Option.bind_some, hnames, Option.getD_some]
  cases format with
  | table => exact absurd rfl hformat
  | json | yaml => exact hsaved

theorem eq_of_name_eq {c d : Collection} (h : c.name = d.name) : c = d := by
  apply Classical.byContradiction
  intro hne
  apply FolderStore.fileName_ne hne
  rw [FolderStore.fileName, FolderStore.fileName, h]

theorem lists_report {format : Format} (hformat : format ≠ .table) {line : String} {o : Outcome}
    {more : List Print} (hmore : ∀ p ∈ more, ∃ text, p = .success text) (c : Collection) :
    Lists (report format line o :: more) c ↔ c ∈ o.touched := by
  constructor
  · rintro ⟨p, hp, hname⟩
    rcases List.mem_cons.1 hp with rfl | hlater
    · rw [saved_report hformat] at hname
      obtain ⟨d, hd, hsame⟩ := List.mem_map.1 hname
      rwa [← eq_of_name_eq hsame]
    · obtain ⟨text, rfl⟩ := hmore p hlater
      cases hname
  · intro hc
    refine ⟨_, List.mem_cons_self, ?_⟩
    rw [saved_report hformat]
    exact List.mem_map_of_mem hc

theorem success_of_remarkOn (s : Option Student) (holds : Student → Bool)
    (text : Student → String) : ∀ p ∈ remarkOn s holds text, ∃ text, p = .success text := by
  intro p hp
  unfold remarkOn at hp
  split at hp
  · split at hp
    · exact ⟨_, List.mem_singleton.1 hp⟩
    · cases hp
  · cases hp

variable {κ : Type}

/-- What is listed, what is stored and what is in memory, when a line has been carried out.  What
is listed and can be saved is stored as it is in memory; nothing else has changed in its file, nor
in memory if it is not listed. -/
structure Reports (before : Desktop κ) (items : List Print) (after : Desktop κ) : Prop where
  stored : ∀ c, Lists items c → before.store.CanSave c →
    load after.store c = .ok (after.records c)
  refused : ∀ c, ¬ (Lists items c ∧ before.store.CanSave c) → before.store.IsSettled →
    load after.store c = load before.store c
  unlisted : ∀ c, ¬ Lists items c → after.records c = before.records c
  savable : ∀ c, after.store.CanSave c ↔ before.store.CanSave c

theorem Reports.refl (w : Desktop κ) : Reports w [] w where
  stored _ hlists := by
    obtain ⟨p, hp, -⟩ := hlists
    cases hp
  refused _ _ _ := rfl
  unlisted _ _ := rfl
  savable _ := Iff.rfl

variable [IdClock κ]

theorem reports_runCommand {w : Desktop κ} {line : String} {items : List Print}
    (hitems : ∀ c, Lists items c ↔ c ∈ (w.runCommand line).1.touched) :
    Reports w items (w.runCommand line).2 := by
  let unsaved : Desktop κ := ⟨(w.desk.run w.current line).2, w.store, w.current⟩
  have hrun : w.runCommand line = ((w.desk.run w.current line).1,
      unsaved.persist (w.desk.run w.current line).1.touched) := rfl
  have hrecords := Workbook.records_of_memory
    (unsaved.memory_persist (w.desk.run w.current line).1.touched)
  rw [hrun] at hitems ⊢
  refine ⟨?_, ?_, ?_, ?_⟩
  · intro c hlists hcan
    rw [hrecords]
    exact Workbook.load_persist_saved (w := unsaved) hcan (.inl ((hitems c).1 hlists))
  · intro c hrefused hsettled
    apply Workbook.load_persist_unsaved (w := unsaved) hsettled
    rw [hitems] at hrefused
    exact Classical.not_and_iff_not_or_not.1 hrefused
  · intro c hunlisted
    rw [hitems] at hunlisted
    rw [hrecords]
    exact w.desk.run_unsaved w.current line hunlisted
  · exact unsaved.canSave_persist _

/-- The run of a line selects a student, which changes no store, and leaves what the line leaves. -/
theorem reports_runWords {ctx : Context} (hformat : ctx.format ≠ .table) {w v : Desktop κ}
    {key : Option String} (words : List String) (hselect : selectFor w key = .ok v) :
    v.store = w.store ∧
      FolderStore.mk (runWords ctx w key words).tree w.store.directory =
        (v.runCommand (" ".intercalate words)).2.store ∧
      Reports v (runWords ctx w key words).items (v.runCommand (" ".intercalate words)).2 := by
  have hsame := store_selectFor hselect
  have hreports : ∀ items, (∀ c, Lists items c ↔
      c ∈ (v.runCommand (" ".intercalate words)).1.touched) →
        Reports v items (v.runCommand (" ".intercalate words)).2 := fun _ => reports_runCommand
  have hstore : FolderStore.mk (v.runCommand (" ".intercalate words)).2.store.tree
      w.store.directory = (v.runCommand (" ".intercalate words)).2.store := by
    rw [← hsame, ← Workbook.directory_runCommand v]
  unfold runWords
  rw [hselect]
  cases hrejected : (v.runCommand (" ".intercalate words)).1.isRejected with
  | true =>
    have hmutated : (v.runCommand (" ".intercalate words)).1.mutated = false :=
      (v.desk.run_mutated_iff v.current _).2 (.inl (of_decide_eq_true hrejected))
    rw [Outcome.mutated, Bool.not_eq_false', List.isEmpty_iff] at hmutated
    simp only [hrejected, if_true]
    refine ⟨hsame, hstore, hreports _ fun c => ?_⟩
    rw [hmutated]
    simp [Desktop.failed, Lists]
  | false =>
    simp only [hrejected, Bool.false_eq_true, if_false]
    exact ⟨hsame, hstore, hreports _ (lists_report hformat (success_of_remarkOn _ _ _))⟩

/-! ### A console -/

/-- A line in a console: what is printed for it, between the desktops before and after it. -/
structure Turn (κ : Type) where
  before : Desktop κ
  items : List Print
  after : Desktop κ

def turns (ctx : Context) (w : Desktop κ) : List String → List (Turn κ)
  | [] => []
  | input :: rest =>
    match consoleStep ctx w input with
    | none => []
    | some (items, after) => ⟨w, items, after⟩ :: turns ctx after rest

/-- A console prints a prompt and the items of each turn, and the last prompt. -/
theorem consoleRun_eq_turns (ctx : Context) (w : Desktop κ) (lines : List String) :
    consoleRun ctx w lines =
      ((turns ctx w lines).flatMap (fun t => .prompt :: t.items) ++ [.prompt],
        ((turns ctx w lines).getLast?.map Turn.after).getD w) := by
  induction lines generalizing w with
  | nil => rfl
  | cons input rest ih =>
    rw [consoleRun, turns]
    cases hstep : consoleStep ctx w input with
    | none => rfl
    | some result =>
      obtain ⟨items, after⟩ := result
      simp only [ih, List.getLast?_cons]
      cases (turns ctx after rest).getLast? <;> simp

theorem reports_consoleStep {ctx : Context} (hformat : ctx.format ≠ .table) {w after : Desktop κ}
    {input : String} {items : List Print} (hstep : consoleStep ctx w input = some (items, after)) :
    Reports w items after := by
  simp only [consoleStep] at hstep
  split at hstep
  · cases hstep
    exact .refl w
  split at hstep
  · cases hstep
  · cases hstep
    exact reports_runCommand (lists_report hformat (success_of_remarkOn _ _ _))

theorem reports_turns {ctx : Context} (hformat : ctx.format ≠ .table) {w : Desktop κ}
    {lines : List String} {t : Turn κ} (ht : t ∈ turns ctx w lines) :
    Reports t.before t.items t.after ∧ ∀ c, t.before.store.CanSave c ↔ w.store.CanSave c := by
  induction lines generalizing w with
  | nil => cases ht
  | cons input rest ih =>
    rw [turns] at ht
    cases hstep : consoleStep ctx w input with
    | none =>
      rw [hstep] at ht
      cases ht
    | some result =>
      obtain ⟨items, after⟩ := result
      have hreports := reports_consoleStep hformat hstep
      simp only [hstep] at ht
      rcases List.mem_cons.1 ht with rfl | hlater
      · exact ⟨hreports, fun _ => Iff.rfl⟩
      · obtain ⟨hturn, hcan⟩ := ih hlater
        exact ⟨hturn, fun c => (hcan c).trans (hreports.savable c)⟩

/-! ### A collection that cannot be saved -/

/-- The students are stored, and a directory is in the way of their temporary file. -/
def blocked : FolderStore where
  tree := ⟨[(["d", "tutor-students.json"],
      .file (.text (FolderStore.encode .students [Student.new "student-1" "Kim"]))),
    (["d", "tutor-students.json.tmp"], .directory), (["d"], .directory)]⟩
  directory := ["d"]

def blockedDesktop : Desktop SequentialClock :=
  ⟨⟨⟨[Student.new "student-1" "Kim"], [], []⟩, .new .epoch 0, .empty⟩, blocked, none⟩

theorem leadsTo_blocked : blocked.tree.LeadsTo blocked.directory ["d"] :=
  ⟨rfl, rfl⟩

theorem open_blocked :
    Workbook.open blocked (SequentialClock.new .epoch 0) .empty = .ok blockedDesktop := by
  apply Workbook.open_eq
  intro c
  rw [FolderStore.load_of_leadsTo leadsTo_blocked]
  cases c with
  | students => exact FolderStore.decode_encode .students _
  | grades => rfl
  | rewards => rfl

theorem not_canSave_blocked : ¬ blocked.CanSave .students := by
  rw [FolderStore.canSave_iff (FileTree.reachDirectory_of_leadsTo leadsTo_blocked) leadsTo_blocked]
  rintro ⟨htemp, -⟩
  exact htemp rfl

theorem canSave_blocked_rewards : blocked.CanSave .rewards := by
  rw [FolderStore.canSave_iff (FileTree.reachDirectory_of_leadsTo leadsTo_blocked) leadsTo_blocked]
  decide

/-! ### What is listed is saved where it can be -/

/-- Right after a line, in a run of its own or in a console, the collections that its report lists
as saved are stored as they are in memory, but for those that cannot be saved.  What can be saved
is the same throughout a console. -/
theorem listed_collections_are_saved {ctx : Context} (hformat : ctx.format ≠ .table)
    (w : Desktop κ) :
    (∀ key words v, selectFor w key = .ok v → v.store = w.store ∧
        FolderStore.mk (runWords ctx w key words).tree w.store.directory =
          (v.runCommand (" ".intercalate words)).2.store ∧
        Reports v (runWords ctx w key words).items (v.runCommand (" ".intercalate words)).2) ∧
      ∀ lines,
        (consoleRun ctx w lines).1 =
            (turns ctx w lines).flatMap (fun t => .prompt :: t.items) ++ [.prompt] ∧
          ∀ t ∈ turns ctx w lines, Reports t.before t.items t.after ∧
            ∀ c, t.before.store.CanSave c ↔ w.store.CanSave c := by
  constructor
  · intro key words v hselect
    exact reports_runWords hformat words hselect
  · intro lines
    refine ⟨congrArg Prod.fst (consoleRun_eq_turns ctx w lines), fun t ht => ?_⟩
    exact reports_turns hformat ht

theorem listed_rewards_are_saved :
    let ctx : Context := ⟨.json, some ⟨"/", []⟩, ["d"], 20, .utc⟩
    let w : Desktop SequentialClock := { blockedDesktop with current := some "student-1" }
    let reply := runWords ctx blockedDesktop (some "student-1") ["!stamp", "+3"]
    ctx.format ≠ .table ∧ selectFor blockedDesktop (some "student-1") = .ok w ∧
      Lists reply.items .rewards ∧ w.store.CanSave .rewards ∧
      (w.runCommand "!stamp +3").2.records .rewards ≠ [] ∧
      load (FolderStore.mk reply.tree ["d"]) .rewards =
        .ok ((w.runCommand "!stamp +3").2.records .rewards) := by
  intro ctx w reply
  have hformat : ctx.format ≠ .table := by decide
  have hselect : selectFor blockedDesktop (some "student-1") = .ok w := rfl
  obtain ⟨-, hstore, hreports⟩ := (listed_collections_are_saved hformat blockedDesktop).1
    (some "student-1") ["!stamp", "+3"] w hselect
  have hlists : Lists reply.items .rewards := by decide +kernel
  have hrecords : (w.runCommand "!stamp +3").2.records .rewards ≠ [] := by decide +kernel
  have hstored := hreports.stored .rewards hlists canSave_blocked_rewards
  rw [← hstore] at hstored
  exact ⟨hformat, hselect, hlists, canSave_blocked_rewards, hrecords, hstored⟩

theorem listed_students_are_not_saved :
    let ctx : Context := ⟨.json, some ⟨"/", []⟩, ["d"], 20, .utc⟩
    let w : Desktop SequentialClock := { blockedDesktop with current := some "student-1" }
    let reply := runWords ctx blockedDesktop (some "student-1") ["!stamp", "+3"]
    Workbook.open blocked (SequentialClock.new .epoch 0) .empty = .ok blockedDesktop ∧
      selectFor blockedDesktop (some "student-1") = .ok w ∧ reply.failure = none ∧
      Lists reply.items .students ∧
      load (FolderStore.mk reply.tree ["d"]) .students ≠
        .ok ((w.runCommand "!stamp +3").2.records .students) := by
  intro ctx w reply
  have hformat : ctx.format ≠ .table := by decide
  have hselect : selectFor blockedDesktop (some "student-1") = .ok w := rfl
  obtain ⟨-, hstore, hreports⟩ := reports_runWords hformat ["!stamp", "+3"] hselect
  refine ⟨open_blocked, hselect, by decide +kernel, by decide +kernel, ?_⟩
  have hsettled : blocked.IsSettled := (FolderStore.keepsView_of_leadsTo leadsTo_blocked).isSettled
  have hstays := hreports.refused .students (fun h => not_canSave_blocked h.2) hsettled
  rw [← hstore] at hstays
  have hload := hstays.trans ((Workbook.open_ok open_blocked).2 .students)
  have hchanged : (w.runCommand "!stamp +3").2.records .students ≠
      blockedDesktop.records .students := by decide +kernel
  intro hsaved
  exact hchanged (Except.ok.inj (hsaved.symm.trans hload))

end Terminal

end Gradebook
