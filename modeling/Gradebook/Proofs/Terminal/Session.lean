import Gradebook.Proofs.Preferences
import Gradebook.Proofs.Terminal.Damage

/-!
# What a session starts from

The settings are the default ones unless something sets them.  Opening a workbook rewrites the
preferences at most, and only where it succeeds; selecting a student leaves the store as it is.
-/

namespace Gradebook

open Preferences (Rewrites)

theorem Workbook.store_select {σ κ : Type} (w : Workbook σ κ) (id : StudentId) :
    (w.select id).2.store = w.store := by
  unfold select
  split
  · rfl
  · rfl

namespace Settings

theorem isAccepted_default : default.logging.isAccepted = true := by
  have hcomma : "," = String.ofList [','] := rfl
  have hsplit := Text.splitOn_char "warn" ','
  have hfilter : isFilter "warn" = true := by
    rw [isFilter, hcomma, hsplit]
    rfl
  rw [LogSettings.isAccepted]
  exact Bool.and_eq_true_iff.2 ⟨hfilter, rfl⟩

end Settings

namespace Terminal

section

variable {general : General} {environment : List (String × String)}
  {home : Option Preferences.Home} {workingDirectory : Path} {tree : FileTree} {ctx : Context}

theorem contextOf_unset (hverbose : general.verbose = false)
    (hfile : ∀ name ∈ settingsName general home,
      Settings.locateFile tree workingDirectory name = none)
    (hvariables : Settings.ofEnvironment environment = []) :
    ∃ ctx, contextOf general environment home workingDirectory tree = .ok ctx := by
  have hsources : Settings.ofSources? [[], []] = some Settings.default := rfl
  have hempty : (settingsName general home).elim (some [])
      (Settings.ofFile? tree workingDirectory) = some [] := by
    cases hname : settingsName general home with
    | none => rfl
    | some name => rw [Option.elim_some, Settings.ofFile?, hfile name hname]
  have hload : Settings.load tree workingDirectory (settingsName general home) environment =
      .ok Settings.default := by
    simp only [Settings.load, hempty, hvariables, hsources]
  simp only [contextOf, hload, hverbose, Bool.false_eq_true, if_false, Settings.isAccepted_default,
    Bool.not_true]
  exact ⟨_, rfl⟩

theorem contextOf_ok (h : contextOf general environment home workingDirectory tree = .ok ctx) :
    ∃ loaded chosen : Settings,
      Settings.load tree workingDirectory (settingsName general home) environment = .ok loaded ∧
      chosen = (if general.verbose then loaded.withLevel "debug" else loaded) ∧
      chosen.logging.isAccepted = true ∧
      ctx = ⟨general.format, home,
        Path.ofText workingDirectory ((general.dataDirectory.or
          (Preferences.value? tree home dataDirectoryName)).getD chosen.dataDirectory),
        chosen.recentLimit, zoneOf environment⟩ := by
  simp only [contextOf] at h
  split at h
  next => cases h
  next loaded hload =>
    refine ⟨loaded, _, hload, rfl, ?_⟩
    generalize (if general.verbose = true then loaded.withLevel "debug" else loaded) = chosen at h ⊢
    cases haccepted : chosen.logging.isAccepted with
    | false =>
      rw [haccepted] at h
      cases h
    | true =>
      rw [haccepted] at h
      cases h
      exact ⟨rfl, rfl⟩

theorem home_of_context (h : contextOf general environment home workingDirectory tree = .ok ctx) :
    ctx.home = home := by
  obtain ⟨_, _, _, _, _, rfl⟩ := contextOf_ok h
  rfl

theorem format_of_context (h : contextOf general environment home workingDirectory tree = .ok ctx) :
    ctx.format = general.format := by
  obtain ⟨_, _, _, _, _, rfl⟩ := contextOf_ok h
  rfl

end

variable {κ : Type}

/-- Opening rewrites at most the file of the preferences, and only if it succeeds. -/
theorem Context.open_cases (ctx : Context) (tree : FileTree) (clock : κ) :
    (∃ f, ctx.open tree clock = .error (f, tree)) ∨
      ∃ w, ctx.open tree clock = .ok w ∧ Rewrites tree (Desktop.tree w) := by
  unfold Context.open
  cases hopen : Workbook.open (FolderStore.mk tree ctx.dataDirectory) clock .empty with
  | error f => exact .inl ⟨_, rfl⟩
  | ok w =>
    have hstore : w.store = ⟨tree, ctx.dataDirectory⟩ := by rw [(Workbook.open_ok hopen).1]
    have htree : Desktop.tree w = tree := congrArg FolderStore.tree hstore
    simp only
    cases Preferences.value? tree ctx.home selectionName with
    | none => exact .inr ⟨w, rfl, .inl htree⟩
    | some id =>
      have hselected := w.store_select id
      simp only
      cases hselect : w.select id with
      | mk result after =>
        rw [hselect] at hselected
        cases result with
        | ok s => exact .inr ⟨after, rfl, .inl ((congrArg FolderStore.tree hselected).trans htree)⟩
        | error f =>
          obtain ⟨p, hclear⟩ | ⟨u, hclear, hrewrites⟩ :=
            Preferences.clear_cases tree ctx.home selectionName
          · simp only [hclear]
            exact .inl ⟨_, rfl⟩
          · simp only [hclear]
            exact .inr ⟨_, rfl, hrewrites⟩

theorem store_selectFor {w v : Desktop κ} {key : Option String} (h : selectFor w key = .ok v) :
    v.store = w.store := by
  unfold selectFor at h
  cases key with
  | none =>
    cases h
    rfl
  | some key =>
    cases htarget : w.target (some key) with
    | error f =>
      simp only [htarget] at h
      cases h
    | ok id =>
      have hstore := w.store_select id
      cases hselect : w.select id with
      | mk result after =>
        rw [hselect] at hstore
        simp only [htarget, hselect] at h
        cases result with
        | error f => cases h
        | ok s =>
          cases h
          exact hstore

theorem Request.perform_opened [IdClock κ] {ctx : Context} {tree : FileTree} {clock : κ}
    {w : Desktop κ} {r : Request} (hr : r.usesLedgers = true)
    (hopen : ctx.open tree clock = .ok w) :
    r.perform ctx tree clock = r.inWorkbook ctx w := by
  cases r with
  | setPreference | getPreference | showPreferences | resetPreferences => cases hr
  | addStudent | listStudents | selectStudent | showStudent | run | console | listHomework
  | completeHomework | rankings | recentStamps | resetStamps | recentGrades | wrongAnswers =>
    simp only [perform, hopen]

theorem exitCode_ofReply {colour : Bool} {r : Reply κ}
    (h : (Result.ofReply colour r).exitCode = 1) : r.failure ≠ none := by
  intro hnone
  unfold Result.ofReply at h
  rw [hnone] at h
  cases h

theorem tree_ofReply (colour : Bool) (r : Reply κ) : (Result.ofReply colour r).tree = r.tree := by
  unfold Result.ofReply
  split
  · rfl
  · rfl

variable [IdClock κ]

theorem Invocation.run_unset {i : Invocation κ} {tree : FileTree} {general : General}
    {request : Request} {message : String}
    (hargs : readArguments i.arguments i.environment = .ok (general, request))
    (hcontext : contextOf general i.environment i.home i.workingDirectory tree = .error message) :
    i.run tree = ⟨1, [.failure message], false, tree, i.clock⟩ := by
  rw [home] at hcontext
  simp only [run, program, start, hargs, hcontext]

theorem Invocation.run_request {i : Invocation κ} {tree : FileTree} {general : General}
    {request : Request} {ctx : Context}
    (hargs : readArguments i.arguments i.environment = .ok (general, request))
    (hcontext : contextOf general i.environment i.home i.workingDirectory tree = .ok ctx)
    (hconsole : ∀ key, request ≠ .console key) :
    i.run tree = .ofReply (colourOf general.noColor i.environment i.isTerminal)
      (request.perform ctx tree i.clock) := by
  rw [home] at hcontext
  simp only [run, program, start, hargs, hcontext]

theorem Invocation.run_console {i : Invocation κ} {tree : FileTree} {general : General}
    {key : Option String} {ctx : Context}
    (hargs : readArguments i.arguments i.environment = .ok (general, .console key))
    (hcontext : contextOf general i.environment i.home i.workingDirectory tree = .ok ctx) :
    i.run tree = match openConsole ctx tree i.clock key with
      | .error reply => .ofReply (colourOf general.noColor i.environment i.isTerminal) reply
      | .ok w => ⟨0, greeting w :: (consoleRun ctx w (inputLines i.input)).1,
          colourOf general.noColor i.environment i.isTerminal,
          (consoleRun ctx w (inputLines i.input)).2.tree,
          (consoleRun ctx w (inputLines i.input)).2.desk.clock⟩ := by
  rw [home] at hcontext
  simp only [run, program, start, hargs, hcontext]
  cases openConsole ctx tree i.clock key <;> rfl

theorem filePath_home :
    Preferences.filePath ⟨"/home", ["home"]⟩ = ["home", ".tutor", "config.toml"] := by
  rw [Preferences.filePath, Path.ofText_eq]
  decide +kernel

def homeSettings : String :=
  Preferences.directoryName ⟨"/home", ["home"]⟩ ++ "/tutor.toml"

theorem path_homeSettings :
    Path.ofText ["home"] homeSettings = ["home", ".tutor", "tutor.toml"] := by
  rw [Path.ofText_eq]
  decide +kernel

/-- The context of a run at home with the data directory `d`. -/
theorem contextOf_home (format : Format) (environment : List (String × String)) {tree : FileTree}
    (hfile : Settings.locateFile tree ["home"] homeSettings = none)
    (hvariables : Settings.ofEnvironment environment = []) :
    ∃ ctx, contextOf ⟨format, some "d", none, false, false⟩ environment
        (some ⟨"/home", ["home"]⟩) ["home"] tree = .ok ctx ∧
      ctx.format = format ∧ ctx.home = some ⟨"/home", ["home"]⟩ ∧
      ctx.dataDirectory = ["home", "d"] := by
  have hunset : ∃ ctx, contextOf ⟨format, some "d", none, false, false⟩ environment
      (some ⟨"/home", ["home"]⟩) ["home"] tree = .ok ctx := by
    refine contextOf_unset rfl ?_ hvariables
    rintro _ ⟨⟩
    exact hfile
  obtain ⟨ctx, hcontext⟩ := hunset
  have hdirectory : ctx.dataDirectory = ["home", "d"] := by
    rw [dataDirectory_of_named rfl hcontext, Path.ofText_eq]
    rfl
  exact ⟨ctx, hcontext, format_of_context hcontext, home_of_context hcontext, hdirectory⟩

end Terminal

end Gradebook
