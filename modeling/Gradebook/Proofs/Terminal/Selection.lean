import Gradebook.Proofs.Terminal.Frame

/-!
# The remembered student

A run of lines for a student of its own leaves the preferences as they are, and with them the
student that they remember, unless that student is not on the roster that the run loads: such a
stranger is forgotten, whichever student the lines are for.
-/

namespace Gradebook

namespace Terminal

variable {κ : Type} [IdClock κ]

/-- The request carries lines out for a student that its arguments name. -/
def Request.NamesStudent : Request → Prop
  | run (some _) _ | console (some _) => True
  | _ => False

/-- The run loads a roster on which the remembered student is not. -/
def Invocation.MeetsStranger (i : Invocation κ) (general : General) (tree : FileTree) : Prop :=
  ∃ ctx ledgers, contextOf general i.environment i.home i.workingDirectory tree = .ok ctx ∧
    Workbook.loadLedgers (FolderStore.mk tree ctx.dataDirectory) = .ok ledgers ∧
    ctx.MeetsStranger tree ledgers

variable {i : Invocation κ} {tree : FileTree} {general : General} {request : Request}
  {ctx : Context}

theorem Request.namesStudent_cases (h : request.NamesStudent) :
    (∃ key words, request = .run (some key) words) ∨ ∃ key, request = .console (some key) := by
  cases request with
  | run key words =>
    cases key with
    | none => cases h
    | some key => exact .inl ⟨key, words, rfl⟩
  | console key =>
    cases key with
    | none => cases h
    | some key => exact .inr ⟨key, rfl⟩
  | _ => cases h

theorem Invocation.run_unloaded
    (hargs : readArguments i.arguments i.environment = .ok (general, request))
    (hrequest : request.NamesStudent)
    (hcontext : contextOf general i.environment i.home i.workingDirectory tree = .ok ctx)
    {f : Failure} (hopen : ctx.open tree i.clock = .error (f, tree)) :
    (i.run tree).tree = tree := by
  obtain ⟨key, words, rfl⟩ | ⟨key, rfl⟩ := Request.namesStudent_cases hrequest
  · rw [Invocation.run_request hargs hcontext fun _ => nofun, tree_ofReply,
      Request.perform_unopened rfl hopen]
  · simp only [Invocation.run_console hargs hcontext, openConsole, hopen, tree_ofReply]

theorem Invocation.run_loaded
    (hargs : readArguments i.arguments i.environment = .ok (general, request))
    (hrequest : request.NamesStudent)
    (hcontext : contextOf general i.environment i.home i.workingDirectory tree = .ok ctx)
    {w : Desktop κ} (hopen : ctx.open tree i.clock = .ok w)
    (hplace : w.roster ≠ [] → ∃ base, w.tree.LeadsTo w.store.directory base) :
    w.tree.AgreesBut FolderStore.ownNames (i.run tree).tree := by
  obtain ⟨key, words, rfl⟩ | ⟨key, rfl⟩ := Request.namesStudent_cases hrequest
  · rw [Invocation.run_request hargs hcontext fun _ => nofun, tree_ofReply,
      Request.perform_opened rfl hopen]
    exact agreesBut_runWords hplace key words
  · simp only [Invocation.run_console hargs hcontext, openConsole, hopen, selectFor_key]
    cases hresolve : w.resolve key with
    | none =>
      simp only [tree_ofReply]
      exact .refl _ _
    | some s =>
      obtain ⟨base, hbase⟩ := hplace (List.ne_nil_of_mem (resolve_mem hresolve))
      exact agreesBut_consoleRun (w := { w with current := some s.id }) hbase _

variable (tree) in
/-- Files of collections aside, a run of lines for a student leaves the tree as it was, or without
the stranger in the preferences. -/
theorem Invocation.run_agrees
    (hargs : readArguments i.arguments i.environment = .ok (general, request))
    (hrequest : request.NamesStudent) :
    ∃ left : FileTree, left.AgreesBut FolderStore.ownNames (i.run tree).tree ∧
      (¬ i.MeetsStranger general tree → left = tree) ∧
      (i.MeetsStranger general tree →
        Preferences.clear tree i.home selectionName = (none, left)) := by
  cases hcontext : contextOf general i.environment i.home i.workingDirectory tree with
  | error message =>
    have hnone : ¬ i.MeetsStranger general tree := by
      rintro ⟨ctx, -, hfound, -⟩
      cases hcontext.symm.trans hfound
    rw [Invocation.run_unset hargs hcontext]
    exact ⟨tree, .refl _ _, fun _ => rfl, fun h => absurd h hnone⟩
  | ok ctx =>
    cases hledgers : Workbook.loadLedgers (FolderStore.mk tree ctx.dataDirectory) with
    | error f =>
      have hnone : ¬ i.MeetsStranger general tree := by
        rintro ⟨other, ledgers, hfound, hloaded, -⟩
        cases hcontext.symm.trans hfound
        cases hledgers.symm.trans hloaded
      rw [Invocation.run_unloaded hargs hrequest hcontext (Context.open_unloaded hledgers _)]
      exact ⟨tree, .refl _ _, fun _ => rfl, fun h => absurd h hnone⟩
    | ok ledgers =>
      obtain ⟨w, hopen, hdesk, -, hdirectory, hknown, hstranger⟩ :=
        Context.open_loaded hledgers i.clock
      have hhome := home_of_context hcontext
      have hmeets : i.MeetsStranger general tree ↔ ctx.MeetsStranger tree ledgers := by
        constructor
        · rintro ⟨other, found, hfound, hloaded, hmeets⟩
          cases hcontext.symm.trans hfound
          cases hledgers.symm.trans hloaded
          exact hmeets
        · exact fun hmeets => ⟨ctx, ledgers, hcontext, hledgers, hmeets⟩
      refine ⟨w.tree, Invocation.run_loaded hargs hrequest hcontext hopen ?_, ?_, ?_⟩
      · intro hroster
        have hledger : ledgers.roster ≠ [] := hdesk ▸ hroster
        obtain ⟨base, -, hbase⟩ := Context.leadsTo_of_open hledgers hopen hledger
        rw [hdirectory]
        exact ⟨base, hbase⟩
      · exact fun h => hknown fun hctx => h (hmeets.2 hctx)
      · rw [← hhome]
        exact fun h => hstranger (hmeets.1 h)

theorem value?_of_agreesBut {t u : FileTree} (h : t.AgreesBut FolderStore.ownNames u)
    (home : Option Preferences.Home) (name : String) :
    Preferences.value? u home name = Preferences.value? t home name := by
  rw [Preferences.value?, Preferences.load_of_agreesBut h (by decide) home]
  rfl

theorem forgets_stranger
    (hargs : readArguments i.arguments i.environment = .ok (general, request))
    (hrequest : request.NamesStudent) (hstranger : i.MeetsStranger general tree) (name : String) :
    Preferences.value? (i.run tree).tree i.home name =
      if name = selectionName then none
      else Preferences.value? tree i.home name := by
  obtain ⟨left, hagrees, -, hcleared⟩ := Invocation.run_agrees tree hargs hrequest
  obtain ⟨p, hbefore, hafter⟩ := Preferences.load_cleared (hcleared hstranger)
  rw [value?_of_agreesBut hagrees, Preferences.value?, hafter, Preferences.value?, hbefore]
  exact p.get?_erase selectionName name

/-- Lines for a student of their own leave every preference as it is, the remembered student
included, unless that student is a stranger, who is forgotten alone. -/
theorem preferences_outlive_lines_for_a_student
    (hargs : readArguments i.arguments i.environment = .ok (general, request))
    (hrequest : request.NamesStudent) :
    let home := i.home
    (¬ i.MeetsStranger general tree → ∀ name,
        Preferences.value? (i.run tree).tree home name = Preferences.value? tree home name) ∧
      (i.MeetsStranger general tree →
        Preferences.value? (i.run tree).tree home selectionName = none ∧
          ∀ name, name ≠ selectionName → Preferences.value? (i.run tree).tree home name =
            Preferences.value? tree home name) := by
  intro home
  constructor
  · intro hknown name
    obtain ⟨left, hagrees, hkept, -⟩ := Invocation.run_agrees tree hargs hrequest
    rw [value?_of_agreesBut hagrees, hkept hknown]
  · intro hstranger
    have hforgets := forgets_stranger hargs hrequest hstranger
    refine ⟨(hforgets selectionName).trans (if_pos rfl), fun name hname => ?_⟩
    exact (hforgets name).trans (if_neg hname)

/-- The first student is remembered; the data directory holds a roster. -/
def rememberingHome (roster : Roster) : FileTree :=
  ⟨[(["home", ".tutor", "config.toml"],
      .file (.text (Preferences.mk [(selectionName, "student-1")]).layout)),
    (["home", ".tutor"], .directory),
    (["home", "d", "tutor-students.json"], .file (.text (FolderStore.encode .students roster))),
    (["home", "d"], .directory), (["home"], .directory)]⟩

theorem value?_rememberingHome (roster : Roster) :
    Preferences.value? (rememberingHome roster) (some ⟨"/home", ["home"]⟩) selectionName =
      some "student-1" := by
  have hread := Preferences.read?_layout (p := ⟨[(selectionName, "student-1")]⟩)
    (List.pairwise_singleton _ _)
  have hfile : ((rememberingHome roster).find ["home", ".tutor", "config.toml"]).toOption =
      some (.file (.text (Preferences.mk [(selectionName, "student-1")]).layout)) := rfl
  rw [Preferences.value?, Preferences.load_eq, filePath_home, hfile, Preferences.loadEntry, hread]
  rfl

theorem loadLedgers_rememberingHome (roster : Roster) :
    Workbook.loadLedgers (FolderStore.mk (rememberingHome roster) ["home", "d"]) =
      .ok ⟨roster, [], []⟩ := by
  have hplace : (rememberingHome roster).LeadsTo ["home", "d"] ["home", "d"] := ⟨rfl, rfl⟩
  apply Workbook.loadLedgers_eq
  intro c
  rw [FolderStore.load_of_leadsTo (s := ⟨rememberingHome roster, _⟩) hplace]
  cases c with
  | students => exact FolderStore.decode_encode .students roster
  | grades => rfl
  | rewards => rfl

def lineForLee : Invocation SequentialClock :=
  ⟨["--data-dir", "d", "run", "--student", "student-2", "!stamp +1"], [("HOME", "/home")], none,
    ["home"], false, .new .epoch 0, ""⟩

theorem readArguments_lineForLee :
    readArguments lineForLee.arguments lineForLee.environment =
      .ok (⟨.table, some "d", none, false, false⟩,
        .run (some "student-2") ["!stamp +1"]) := rfl

theorem meetsStranger_lineForLee (roster : Roster) :
    lineForLee.MeetsStranger ⟨.table, some "d", none, false, false⟩ (rememberingHome roster) ↔
      roster.get? "student-1" = none := by
  have hfile : Settings.locateFile (rememberingHome roster) ["home"] homeSettings = none := by
    rw [Settings.locateFile, path_homeSettings]
    rfl
  obtain ⟨ctx, hcontext, -, hhome, hdirectory⟩ :=
    contextOf_home .table lineForLee.environment hfile rfl
  have hvalue := value?_rememberingHome roster
  have hledgers := loadLedgers_rememberingHome roster
  rw [← hhome] at hvalue
  rw [← hdirectory] at hledgers
  constructor
  · rintro ⟨other, ledgers, hfound, hloaded, id, hid, hmissing⟩
    cases hcontext.symm.trans hfound
    cases hledgers.symm.trans hloaded
    cases hvalue.symm.trans hid
    exact hmissing
  · exact fun hmissing => ⟨ctx, _, hcontext, hledgers, "student-1", hvalue, hmissing⟩

theorem line_for_lee_keeps_kim_selected :
    let tree := rememberingHome [Student.new "student-1" "Kim", Student.new "student-2" "Lee"]
    readArguments lineForLee.arguments lineForLee.environment =
        .ok (⟨.table, some "d", none, false, false⟩, .run (some "student-2") ["!stamp +1"]) ∧
      ¬ lineForLee.MeetsStranger ⟨.table, some "d", none, false, false⟩ tree ∧
      Preferences.value? (lineForLee.run tree).tree (some ⟨"/home", ["home"]⟩) selectionName =
        some "student-1" := by
  intro tree
  have hknown : ¬ lineForLee.MeetsStranger ⟨.table, some "d", none, false, false⟩ tree := by
    rw [meetsStranger_lineForLee]
    decide
  refine ⟨readArguments_lineForLee, hknown, ?_⟩
  have hkept := (preferences_outlive_lines_for_a_student readArguments_lineForLee trivial).1 hknown
  exact (hkept selectionName).trans (value?_rememberingHome _)

/-- In a data directory where Kim is a stranger, a line for Lee has Kim forgotten. -/
theorem line_for_lee_forgets_kim :
    let tree := rememberingHome [Student.new "student-2" "Lee"]
    readArguments lineForLee.arguments lineForLee.environment =
        .ok (⟨.table, some "d", none, false, false⟩, .run (some "student-2") ["!stamp +1"]) ∧
      Preferences.value? tree (some ⟨"/home", ["home"]⟩) selectionName = some "student-1" ∧
      Preferences.value? (lineForLee.run tree).tree (some ⟨"/home", ["home"]⟩) selectionName =
        none := by
  intro tree
  have hstranger : lineForLee.MeetsStranger ⟨.table, some "d", none, false, false⟩ tree := by
    rw [meetsStranger_lineForLee]
    decide
  refine ⟨readArguments_lineForLee, value?_rememberingHome _, ?_⟩
  exact (forgets_stranger readArguments_lineForLee trivial hstranger selectionName).trans
    (if_pos rfl)

end Terminal

end Gradebook
