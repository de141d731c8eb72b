import Gradebook.Proofs.Terminal.Session
import Gradebook.Proofs.Workbook.Counting
import Gradebook.Proofs.Workbook.Rejection

/-!
# Runs that fail

A run that ends with exit code one has changed no collection file, with one exception: a student who
is to be added and selected is added before the selection is kept, and stays added where that fails.
-/

namespace Gradebook

open Preferences (HoldsHome Rewrites homePath)

namespace Workbook

variable {σ κ : Type} [CollectionStore σ] [IdClock κ]

theorem store_perform_failed (w : Workbook σ κ) {o : Operation}
    (h : (w.perform o).1.isError = true) : (w.perform o).2.store = w.store := by
  rw [perform_eq] at h ⊢
  obtain ⟨input, rfl⟩ | ⟨-, f, -, -, -, hsaves⟩ | ⟨-, hanswer, -⟩ :=
    w.desk.effect_answer w.current o
  · cases h
  · rw [hsaves]
    rfl
  · cases hanswer.symm.trans h

theorem store_runCommand_rejected (w : Workbook σ κ) (input : String)
    (h : (w.runCommand input).1.isRejected = true) :
    (w.runCommand input).2.store = w.store := by
  apply store_runCommand
  rw [Desk.run_mutated_iff]
  exact .inl (of_decide_eq_true h)

end Workbook

namespace Terminal

variable {κ : Type}

/-! ### Requests that fail -/

/-- A reply that leaves a tree as it was if it fails. -/
def Reply.Stays (r : Reply κ) (t : FileTree) : Prop :=
  r.failure ≠ none → r.tree = t

theorem stays_done (w : Desktop κ) (items : List Print) (t : FileTree) : (w.done items).Stays t :=
  fun h => absurd rfl h

theorem stays_failed (w : Desktop κ) (f : Failure) : (w.failed f).Stays w.tree :=
  fun _ => rfl

variable [IdClock κ]

theorem stays_completeHomework (ctx : Context) (w : Desktop κ) (homework : String)
    (key : Option String) : (completeHomework ctx w homework key).Stays w.tree := by
  unfold completeHomework
  cases w.target key with
  | error f => exact stays_failed w f
  | ok id =>
    have hstore := w.store_perform_failed (o := .completeHomework id homework)
    simp only [Workbook.perform] at hstore ⊢
    cases hresult : w.completeHomework id homework with
    | mk result after =>
      rw [hresult] at hstore
      cases result with
      | error f => exact fun _ => congrArg FolderStore.tree (hstore rfl)
      | ok u => exact stays_done after _ _

theorem stays_resetStamps (w : Desktop κ) (key : Option String) (force : Bool) :
    (resetStamps w key force).Stays w.tree := by
  unfold resetStamps
  cases w.targetStudent key with
  | error f => exact stays_failed w f
  | ok s =>
    simp only
    split
    next => exact stays_done w _ _
    next =>
      have hstore := w.store_perform_failed (o := .resetStamps s.id)
      simp only [Workbook.perform] at hstore
      cases hresult : w.resetStamps s.id with
      | mk result after =>
        rw [hresult] at hstore
        cases result with
        | error f => exact fun _ => congrArg FolderStore.tree (hstore rfl)
        | ok u => exact stays_done after _ _

theorem stays_runWords (ctx : Context) (w : Desktop κ) (key : Option String)
    (words : List String) : (runWords ctx w key words).Stays w.tree := by
  unfold runWords
  cases hselect : selectFor w key with
  | error f => exact stays_failed w f
  | ok v =>
    have hstore := store_selectFor hselect
    have hrejected := v.store_runCommand_rejected (" ".intercalate words)
    simp only
    cases hrun : v.runCommand (" ".intercalate words) with
    | mk o after =>
      rw [hrun] at hrejected
      simp only
      split
      next hreject => exact fun _ => congrArg FolderStore.tree ((hrejected hreject).trans hstore)
      next => exact stays_done after _ _

/-- Adding a student fails without a change, but for a selection that cannot be kept. -/
theorem addStudent_failed {ctx : Context} {w : Desktop κ} {name : String} {select : Bool}
    (h : (addStudent ctx w name select).failure ≠ none) :
    (addStudent ctx w name select).tree = w.tree ∨
      select = true ∧ ∃ p, (addStudent ctx w name select).failure = some (.preferences p) := by
  have hstore := w.store_perform_failed (o := .addStudent name)
  simp only [Workbook.perform] at hstore
  unfold addStudent at h ⊢
  cases hresult : w.addStudent name with
  | mk result after =>
    rw [hresult] at hstore h
    cases result with
    | error f => exact .inl (congrArg FolderStore.tree (hstore rfl))
    | ok s =>
      simp only at h ⊢
      cases select with
      | false => exact absurd rfl h
      | true =>
        rw [if_pos rfl] at h ⊢
        cases hkept : Preferences.store after.store.tree ctx.home selectionName s.id with
        | mk problem tree =>
          rw [hkept] at h
          cases problem with
          | none => exact absurd rfl h
          | some p => exact .inr ⟨rfl, p, rfl⟩

/-- Where the preferences cannot be read, a student is added, but not selected. -/
theorem addStudent_unselected {ctx : Context} {w : Desktop κ} {name : String}
    {p : Preferences.Problem} (hname : Text.trim name ≠ "")
    (hload : Preferences.load (w.perform (.addStudent name)).2.store.tree ctx.home = .error p) :
    (addStudent ctx w name true).failure = some (.preferences p) ∧
      (addStudent ctx w name true).tree = (w.perform (.addStudent name)).2.store.tree := by
  have hanswer : (w.perform (.addStudent name)).1 =
      .student (.ok (Student.new (IdClock.newId w.desk.clock "student").1 (Text.trim name))) := by
    simp only [Workbook.perform_eq, Desk.effect, if_neg hname]
  simp only [Workbook.perform] at hanswer hload ⊢
  cases hresult : w.addStudent name with
  | mk result after =>
    rw [hresult] at hanswer hload
    cases hanswer
    simp only [addStudent, hresult, if_true, Preferences.store_unread hload]
    exact ⟨rfl, rfl⟩

omit [IdClock κ] in
theorem stays_ofStudent (w : Desktop κ) (key : Option String) (items : Student → List Print) :
    (match w.targetStudent key with
      | .error f => w.failed f
      | .ok s => w.done (items s)).Stays w.tree := by
  cases w.targetStudent key with
  | error f => exact stays_failed w f
  | ok s => exact stays_done w _ _

omit [IdClock κ] in
theorem stays_selectStudent {ctx : Context} {w : Desktop κ} (hw : w.tree.IsWellFormed)
    (hhome : HoldsHome w.tree ctx.home) (key : String) :
    (selectStudent ctx w key).Stays w.tree := by
  unfold selectStudent
  cases w.targetStudent (some key) with
  | error f => exact stays_failed w f
  | ok s =>
    have hstore := Preferences.store_failed hw hhome selectionName s.id
    simp only
    cases hkept : Preferences.store w.tree ctx.home selectionName s.id with
    | mk problem tree =>
      rw [hkept] at hstore
      cases problem with
      | none => exact stays_done _ _ _
      | some p => exact fun _ => hstore (Option.some_ne_none p)

omit [IdClock κ] in
theorem stays_setPreference {ctx : Context} {tree : FileTree} (htree : tree.IsWellFormed)
    (hhome : HoldsHome tree ctx.home) (clock : κ) (name text : String) :
    (setPreference ctx tree clock name text).Stays tree := by
  have hstore := Preferences.store_failed htree hhome name text
  unfold setPreference
  simp only
  cases hkept : Preferences.store tree ctx.home name text with
  | mk problem left =>
    rw [hkept] at hstore
    cases problem with
    | none => exact fun h => absurd rfl h
    | some p => exact fun _ => hstore (Option.some_ne_none p)

omit [IdClock κ] in
theorem stays_readPreferences (ctx : Context) (tree : FileTree) (clock : κ)
    (items : Preferences → List Print) : (readPreferences ctx tree clock items).Stays tree := by
  unfold readPreferences
  split
  · exact fun _ => rfl
  · exact fun h => absurd rfl h

omit [IdClock κ] in
theorem stays_resetPreferences (ctx : Context) (tree : FileTree) (clock : κ) (force : Bool) :
    (resetPreferences ctx tree clock force).Stays tree := by
  unfold resetPreferences
  split
  · exact fun h => absurd rfl h
  · split
    · exact fun _ => rfl
    · exact fun h => absurd rfl h

/-- A request that fails on a workbook leaves the tree as it is, unless a student is added and
cannot be selected. -/
theorem Request.inWorkbook_failed {ctx : Context} {w : Desktop κ} (hw : w.tree.IsWellFormed)
    (hhome : HoldsHome w.tree ctx.home) {r : Request}
    (h : (r.inWorkbook ctx w).failure ≠ none) :
    (r.inWorkbook ctx w).tree = w.tree ∨
      ∃ name p, r = .addStudent name true ∧
        (r.inWorkbook ctx w).failure = some (.preferences p) := by
  cases r with
  | addStudent name select =>
    have hadd : (Terminal.addStudent ctx w name select).failure ≠ none := h
    obtain hsame | ⟨rfl, p, hfailure⟩ := addStudent_failed hadd
    · exact .inl hsame
    · exact .inr ⟨name, p, rfl, hfailure⟩
  | selectStudent key => exact .inl (stays_selectStudent hw hhome key h)
  | showStudent key => exact .inl (stays_ofStudent w key _ h)
  | run key words => exact .inl (stays_runWords ctx w key words h)
  | listHomework key all => exact .inl (stays_ofStudent w key _ h)
  | completeHomework homework key => exact .inl (stays_completeHomework ctx w homework key h)
  | resetStamps key force => exact .inl (stays_resetStamps w key force h)
  | wrongAnswers key today => exact .inl (stays_ofStudent w key _ h)
  | listStudents query => exact .inl (stays_done w _ _ h)
  | rankings => exact .inl (stays_done w _ _ h)
  | recentStamps limit => exact .inl (stays_done w _ _ h)
  | recentGrades limit => exact .inl (stays_done w _ _ h)
  | console | setPreference | getPreference | showPreferences | resetPreferences =>
    exact .inl (stays_done w _ _ h)

/-- The request is to add and select a student, and the student is added before the selection turns
out not to be kept. -/
def Request.AddsInVain (ctx : Context) (tree : FileTree) (clock : κ) (r : Request) : Prop :=
  ∃ name w p, r = .addStudent name true ∧ ctx.open tree clock = .ok w ∧
    (Terminal.addStudent ctx w name true).failure = some (.preferences p)

theorem Request.perform_failed {ctx : Context} {tree : FileTree} (htree : tree.IsWellFormed)
    (hhome : HoldsHome tree ctx.home) {clock : κ} {r : Request}
    (hadds : ¬ r.AddsInVain ctx tree clock) (h : (r.perform ctx tree clock).failure ≠ none) :
    tree.KeepsCollections (r.perform ctx tree clock).tree := by
  cases hr : r.usesLedgers with
  | false =>
    have hstays : (r.perform ctx tree clock).Stays tree := by
      cases r with
      | setPreference name text => exact stays_setPreference htree hhome clock name text
      | getPreference name => exact stays_readPreferences ctx tree clock _
      | showPreferences => exact stays_readPreferences ctx tree clock _
      | resetPreferences force => exact stays_resetPreferences ctx tree clock force
      | _ => cases hr
    rw [hstays h]
    exact .refl tree
  | true =>
    obtain ⟨f, hopen⟩ | ⟨w, hopen, hrewrites⟩ := ctx.open_cases tree clock
    · rw [r.perform_unopened hr hopen]
      exact .refl tree
    · rw [Request.perform_opened hr hopen] at h ⊢
      have hw := hrewrites.isWellFormed htree
      obtain hsame | ⟨name, p, rfl, hfailure⟩ :=
        inWorkbook_failed hw (hrewrites.holdsHome hhome) h
      · rw [hsame]
        exact hrewrites.keepsCollections
      · exact absurd ⟨name, w, p, rfl, hopen, hfailure⟩ hadds

/-- The arguments and the settings can be used, and the request adds a student in vain. -/
def Invocation.AddsInVain (i : Invocation κ) (tree : FileTree) : Prop :=
  ∃ general request ctx, readArguments i.arguments i.environment = .ok (general, request) ∧
    contextOf general i.environment i.home i.workingDirectory tree = .ok ctx ∧
    request.AddsInVain ctx tree i.clock

omit [IdClock κ] in
theorem openConsole_failed {ctx : Context} {tree : FileTree} {clock : κ} {key : Option String}
    {r : Reply κ} (h : openConsole ctx tree clock key = .error r) :
    tree.KeepsCollections r.tree := by
  unfold openConsole at h
  obtain ⟨f, hopen⟩ | ⟨w, hopen, hrewrites⟩ := ctx.open_cases tree clock
  · rw [hopen] at h
    cases h
    exact .refl tree
  · rw [hopen] at h
    cases hselect : selectFor w key with
    | error f =>
      simp only [hselect] at h
      cases h
      exact hrewrites.keepsCollections
    | ok v =>
      simp only [hselect] at h
      cases h

/-! ### A home with malformed preferences -/

/-- The preferences are no TOML, and the directory of the collections is empty. -/
def brokenHome : FileTree :=
  ⟨[(["home", ".tutor", "config.toml"], .file (.text "[")),
    (["home", ".tutor"], .directory), (["home", "d"], .directory), (["home"], .directory)]⟩

theorem load_brokenHome (c : Collection) :
    CollectionStore.load (FolderStore.mk brokenHome ["home", "d"]) c = .ok [] := by
  cases c <;> rfl

theorem read_bracket : Preferences.read? "[" = none := by decide +kernel

omit [IdClock κ] in
theorem open_brokenHome {ctx : Context} (hhome : ctx.home = some ⟨"/home", ["home"]⟩)
    (hdirectory : ctx.dataDirectory = ["home", "d"]) (clock : κ) :
    ctx.open brokenHome clock =
      .ok ⟨⟨⟨[], [], []⟩, clock, .empty⟩, ⟨brokenHome, ["home", "d"]⟩, none⟩ := by
  have hopen : Workbook.open (FolderStore.mk brokenHome ["home", "d"]) clock .empty =
      .ok ⟨⟨⟨[], [], []⟩, clock, .empty⟩, ⟨brokenHome, ["home", "d"]⟩, none⟩ :=
    Workbook.open_eq (fun c => by cases c <;> rfl) clock .empty
  have hload : Preferences.load brokenHome (some ⟨"/home", ["home"]⟩) = .error .malformed := by
    apply Preferences.load_malformed _ read_bracket
    rw [filePath_home]
    rfl
  have hvalue : Preferences.value? brokenHome (some ⟨"/home", ["home"]⟩) selectionName = none := by
    rw [Preferences.value?, hload]
    rfl
  simp only [Context.open, hdirectory, hhome, hopen, hvalue]

theorem contextOf_brokenHome : ∃ ctx,
    contextOf ⟨.table, some "d", none, false, false⟩ [("HOME", "/home")]
        (some ⟨"/home", ["home"]⟩) ["home"] brokenHome = .ok ctx ∧
      ctx.home = some ⟨"/home", ["home"]⟩ ∧ ctx.dataDirectory = ["home", "d"] := by
  have hfile : Settings.locateFile brokenHome ["home"] homeSettings = none := by
    rw [Settings.locateFile, path_homeSettings]
    rfl
  obtain ⟨ctx, hcontext, -, hplaces⟩ := contextOf_home .table [("HOME", "/home")] hfile rfl
  exact ⟨ctx, hcontext, hplaces⟩

theorem write_brokenHome (text : String) :
    FolderStore.write ⟨brokenHome, ["home", "d"]⟩ .students text =
      (none, ((brokenHome.put ["home", "d", "tutor-students.json.tmp"]
          (.file (.text text))).erase ["home", "d", "tutor-students.json.tmp"]).put
        ["home", "d", "tutor-students.json"] (.file (.text text))) := by
  have hplace : brokenHome.LeadsTo ["home", "d"] ["home", "d"] := ⟨rfl, rfl⟩
  rw [FolderStore.write_there (s := ⟨brokenHome, ["home", "d"]⟩) hplace,
    if_neg (by decide), if_neg (by decide)]
  rfl

/-! ### No failed run changes a ledger -/

/-- A run that fails has changed no collection file in any directory, unless a student was added and
could not be selected. -/
theorem failed_run_changes_no_ledger {i : Invocation κ} {tree : FileTree}
    (htree : tree.IsWellFormed) (hhome : HoldsHome tree i.home)
    (hadds : ¬ i.AddsInVain tree) (hexit : (i.run tree).exitCode = 1) :
    tree.KeepsCollections (i.run tree).tree := by
  cases hargs : readArguments i.arguments i.environment with
  | error stop =>
    have hrun : (i.run tree).tree = tree := by
      unfold Invocation.run program start
      rw [hargs]
      cases stop <;> rfl
    rw [hrun]
    exact .refl tree
  | ok asked =>
    obtain ⟨general, request⟩ := asked
    cases hcontext : contextOf general i.environment i.home i.workingDirectory tree with
    | error message =>
      rw [Invocation.run_unset hargs hcontext]
      exact .refl tree
    | ok ctx =>
      rw [← home_of_context hcontext] at hhome
      have hperform : (request.perform ctx tree i.clock).failure ≠ none →
          tree.KeepsCollections (request.perform ctx tree i.clock).tree :=
        Request.perform_failed htree hhome fun h =>
          hadds ⟨general, request, ctx, hargs, hcontext, h⟩
      cases request with
      | console key =>
        rw [Invocation.run_console hargs hcontext] at hexit ⊢
        cases hopen : openConsole ctx tree i.clock key with
        | error r =>
          simp only [tree_ofReply]
          exact openConsole_failed hopen
        | ok w =>
          rw [hopen] at hexit
          cases hexit
      | _ =>
        rw [Invocation.run_request hargs hcontext fun _ => nofun] at hexit ⊢
        rw [tree_ofReply]
        exact hperform (exitCode_ofReply hexit)

theorem selecting_nobody_changes_no_ledger :
    let i : Invocation SequentialClock :=
      ⟨["--data-dir", "d", "student", "select", "Lee"], [("HOME", "/home")], none,
        ["home"], false, .new .epoch 0, ""⟩
    brokenHome.IsWellFormed ∧ HoldsHome brokenHome i.home ∧
      ¬ i.AddsInVain brokenHome ∧ (i.run brokenHome).exitCode = 1 ∧
      brokenHome.KeepsCollections (i.run brokenHome).tree := by
  intro i
  have htree : brokenHome.IsWellFormed := FileTree.isWellFormed_of_entries (by decide)
  have hhome : HoldsHome brokenHome i.home := by
    rintro _ ⟨⟩
    have hpath : homePath ⟨"/home", ["home"]⟩ = ["home"] := by
      rw [homePath, Preferences.directoryPath, Path.ofText_eq]
      decide +kernel
    exact (congrArg brokenHome.isDirectory hpath).trans rfl
  have hargs : readArguments i.arguments i.environment =
      .ok (⟨.table, some "d", none, false, false⟩, .selectStudent "Lee") := rfl
  have hadds : ¬ i.AddsInVain brokenHome := by
    rintro ⟨general, request, ctx, hasked, -, name, w, p, hrequest, -⟩
    cases hargs.symm.trans hasked
    cases hrequest
  have hexit : (i.run brokenHome).exitCode = 1 := by
    obtain ⟨ctx, hcontext, hplaces⟩ := contextOf_brokenHome
    have hopen := open_brokenHome hplaces.1 hplaces.2 i.clock
    have hrequest : ∀ key, Request.selectStudent "Lee" ≠ .console key := by
      intro key hconsole
      cases hconsole
    rw [Invocation.run_request hargs hcontext hrequest, Request.perform_opened rfl hopen]
    rfl
  exact ⟨htree, hhome, hadds, hexit, failed_run_changes_no_ledger htree hhome hadds hexit⟩

theorem student_is_added_in_vain :
    let i : Invocation SequentialClock :=
      ⟨["--data-dir", "d", "student", "add", "Kim", "--select"], [("HOME", "/home")], none,
        ["home"], false, .new .epoch 0, ""⟩
    (i.run brokenHome).exitCode = 1 ∧
      CollectionStore.load (FolderStore.mk brokenHome ["home", "d"]) .students = .ok [] ∧
      CollectionStore.load (FolderStore.mk (i.run brokenHome).tree ["home", "d"]) .students =
        .ok [Student.new "student-1" "Kim"] := by
  intro i
  have hargs : readArguments i.arguments i.environment =
      .ok (⟨.table, some "d", none, false, false⟩, .addStudent "Kim" true) := rfl
  obtain ⟨ctx, hcontext, hhome, hdirectory⟩ := contextOf_brokenHome
  have hopen := open_brokenHome hhome hdirectory i.clock
  -- the roster is saved before the preferences are read again
  let w : Desktop SequentialClock :=
    ⟨⟨⟨[], [], []⟩, i.clock, .empty⟩, ⟨brokenHome, ["home", "d"]⟩, none⟩
  have hname : Text.trim "Kim" ≠ "" := by decide
  have hrecords : (w.unsaved (.addStudent "Kim")).records .students =
      [Student.new "student-1" "Kim"] := by decide +kernel
  have hstore : (w.perform (.addStudent "Kim")).2.store =
      (CollectionStore.save w.store .students [Student.new "student-1" "Kim"]).2 := by
    rw [w.perform_addStudent "Kim" hname, Workbook.store_persistOne, hrecords]
    rfl
  have hloaded : CollectionStore.load
      (CollectionStore.save w.store .students [Student.new "student-1" "Kim"]).2 .students =
        .ok [Student.new "student-1" "Kim"] := by
    apply FolderStore.load_saved
    rw [FolderStore.save_eq, write_brokenHome]
  have hpreferences : Preferences.load (w.perform (.addStudent "Kim")).2.store.tree ctx.home =
      .error .malformed := by
    rw [hstore, FolderStore.save_eq, write_brokenHome, hhome]
    apply Preferences.load_malformed _ read_bracket
    rw [filePath_home]
    rfl
  obtain ⟨hfailure, htree⟩ := addStudent_unselected hname hpreferences
  have hrun : i.run brokenHome =
      .ofReply (colourOf false i.environment false) (addStudent ctx w "Kim" true) := by
    rw [Invocation.run_request hargs hcontext fun _ => nofun, Request.perform_opened rfl hopen]
    rfl
  refine ⟨?_, load_brokenHome .students, ?_⟩
  · rw [hrun, Result.ofReply, hfailure]
  · rw [hrun, tree_ofReply, htree, hstore]
    exact hloaded

end Terminal

end Gradebook
