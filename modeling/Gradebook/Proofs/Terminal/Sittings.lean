import Gradebook.Proofs.Command.Grammar
import Gradebook.Proofs.Ledger.Unmarked
import Gradebook.Proofs.Terminal.Arguments
import Gradebook.Proofs.Terminal.Selection
import Gradebook.Proofs.Terminal.Sequel
import Mathlib.Data.List.Forall2

/-!
# A console beside runs of its lines

The lines that a console carries out do the same in runs of their own, one after another: the same
lines are rejected, with the same message, and what is stored in the end is the same but for
identities and times.
-/

namespace Gradebook

theorem Desk.run_eq_of_parse_eq {κ : Type} [IdClock κ] {d : Desk κ} {current : Option StudentId}
    {input other : String} (h : Command.parse input = Command.parse other) :
    d.run current input = d.run current other := by
  simp only [run, accept, h]

namespace Workbook

variable {σ κ : Type} [CollectionStore σ] [IdClock κ]

theorem outcome_runCommand (w : Workbook σ κ) (line : String) :
    (w.runCommand line).1 = (w.desk.run w.current line).1 := rfl

theorem memory_runCommand (w : Workbook σ κ) (line : String) :
    (w.runCommand line).2.memory =
      ⟨(w.desk.run w.current line).2.ledgers, (w.desk.run w.current line).2.clock, w.current⟩ :=
  memory_persist _ ⟨(w.desk.run w.current line).2, w.store, w.current⟩

theorem ledgers_runCommand (w : Workbook σ κ) (line : String) :
    (w.runCommand line).2.desk.ledgers = (w.desk.run w.current line).2.ledgers :=
  congrArg Memory.ledgers (w.memory_runCommand line)

theorem current_runCommand (w : Workbook σ κ) (line : String) :
    (w.runCommand line).2.current = w.current :=
  congrArg Memory.current (w.memory_runCommand line)

end Workbook

namespace Terminal

variable {κ : Type} [IdClock κ]

/-! ### The lines of a console -/

/-- The lines that a console carries out, which are not blank and come before the first that leaves
it. -/
def carriedLines : List String → List String
  | [] => []
  | input :: rest =>
    if Text.trim input = "" then carriedLines rest
    else if leavingLines.contains (Text.trim input) then []
    else input :: carriedLines rest

/-- A line that a console carries out, and the desktop that it is carried out on. -/
structure Typed (κ : Type) where
  input : String
  before : Desktop κ

namespace Typed

def line (l : Typed κ) : String :=
  Text.trim l.input

def outcome (l : Typed κ) : Outcome :=
  (l.before.runCommand l.line).1

def after (l : Typed κ) : Desktop κ :=
  (l.before.runCommand l.line).2

theorem current_after (l : Typed κ) : l.after.current = l.before.current :=
  l.before.current_runCommand l.line

theorem register_after (l : Typed κ) : l.after.roster.register = l.before.roster.register := by
  have hledgers := l.before.ledgers_runCommand l.line
  rw [after, Workbook.roster, hledgers]
  exact Desk.register_run _ _ _

/-- What the console prints for the line. -/
def items (ctx : Context) (l : Typed κ) : List Print :=
  report ctx.format l.line l.outcome :: reachedItems l.before l.after

end Typed

def typed (w : Desktop κ) : List String → List (Typed κ)
  | [] => []
  | input :: rest => ⟨input, w⟩ :: typed (Typed.after ⟨input, w⟩) rest

def afterLines (w : Desktop κ) (inputs : List String) : Desktop κ :=
  inputs.foldl (fun w input => Typed.after ⟨input, w⟩) w

def Print.isPrompt : Print → Bool
  | prompt => true
  | _ => false

omit [IdClock κ] in
theorem isPrompt_greeting (w : Desktop κ) : (greeting w).isPrompt = false := by
  unfold greeting
  split <;> rfl

theorem isPrompt_report (format : Format) (line : String) (o : Outcome) :
    (report format line o).isPrompt = false := by
  cases format with
  | table =>
    simp only [report, Print.ofOutcome]
    cases o.tone <;> rfl
  | json | yaml => rfl

theorem isPrompt_items (ctx : Context) (l : Typed κ) : ∀ p ∈ l.items ctx, p.isPrompt = false := by
  rw [Typed.items, List.forall_mem_cons]
  refine ⟨isPrompt_report _ _ _, fun p hp => ?_⟩
  obtain ⟨text, rfl⟩ := success_of_remarkOn _ _ _ p hp
  rfl

/-- Prompts aside, a console prints the items of the lines that it carries out, and it ends on the
desktop after them. -/
theorem consoleRun_eq_typed (ctx : Context) (w : Desktop κ) (inputs : List String) :
    (consoleRun ctx w inputs).1.filter (!·.isPrompt) =
        (typed w (carriedLines inputs)).flatMap (·.items ctx) ∧
      (consoleRun ctx w inputs).2 = afterLines w (carriedLines inputs) := by
  induction inputs generalizing w with
  | nil => exact ⟨rfl, rfl⟩
  | cons input rest ih =>
    rw [consoleRun, carriedLines]
    by_cases hblank : Text.trim input = ""
    · simp only [consoleStep, if_pos hblank]
      exact ih w
    by_cases hleaving : leavingLines.contains (Text.trim input) = true
    · simp only [consoleStep, if_neg hblank, if_pos hleaving]
      exact ⟨rfl, rfl⟩
    · obtain ⟨hitems, hlast⟩ := ih (Typed.after ⟨input, w⟩)
      have hown : (Typed.items ctx ⟨input, w⟩).filter (!·.isPrompt) =
          Typed.items ctx ⟨input, w⟩ := by
        rw [List.filter_eq_self]
        intro p hp
        rw [isPrompt_items ctx _ p hp, Bool.not_false]
      have hstep : consoleStep ctx w input =
          some (Typed.items ctx ⟨input, w⟩, Typed.after ⟨input, w⟩) := by
        simp only [consoleStep, if_neg hblank, if_neg hleaving]
        rfl
      simp only [hstep, if_neg hblank, if_neg hleaving]
      refine ⟨?_, hlast⟩
      rw [List.cons_append, List.filter_cons_of_neg (by simp [Print.isPrompt]),
        List.filter_append, hown, hitems]
      rfl

/-- A run did what the line did in a console: it failed just where the line was rejected, and then
with the message of the line. -/
structure Typed.MatchedBy (l : Typed κ) (r : Result κ) : Prop where
  exitCode : r.exitCode = if l.outcome.isRejected then 1 else 0
  message : l.outcome.isRejected = true → r.items = [.error l.outcome.message]

omit [IdClock κ] in
theorem IsStored.selecting {w : Desktop κ} (h : IsStored w) (id : StudentId) :
    IsStored { w with current := some id } :=
  ⟨h.place, h.savable, h.stored⟩

/-- A run of words for a student carries their line out on the ledgers that it loads. -/
theorem Invocation.run_words {j : Invocation κ} {tree : FileTree} {general : General}
    {key : String} {words : List String} {ctx : Context} {ledgers : Ledgers} {student : Student}
    (hargs : readArguments j.arguments j.environment = .ok (general, .run (some key) words))
    (hcontext : contextOf general j.environment j.home j.workingDirectory tree = .ok ctx)
    (hledgers : Workbook.loadLedgers (FolderStore.mk tree ctx.dataDirectory) = .ok ledgers)
    (hstudent : ledgers.roster.resolve key = some student)
    (hsaves : ∀ c, (FolderStore.mk tree ctx.dataDirectory).CanSave c) :
    ∃ w : Desktop κ, w.desk.ledgers = ledgers ∧ w.current = some student.id ∧
      w.store.directory = ctx.dataDirectory ∧ IsStored w ∧ Follows ctx.home tree w.tree ∧
      (j.run tree).tree = (w.runCommand (" ".intercalate words)).2.store.tree ∧
      (j.run tree).exitCode =
        (if (w.runCommand (" ".intercalate words)).1.isRejected then 1 else 0) ∧
      ((w.runCommand (" ".intercalate words)).1.isRejected = true →
        (j.run tree).items = [.error (w.runCommand (" ".intercalate words)).1.message]) := by
  have hroster : ledgers.roster ≠ [] := by
    intro hnil
    rw [hnil] at hstudent
    cases hstudent
  obtain ⟨w, hopen, hdesk, hdirectory, hstored, hfollows⟩ :=
    Context.open_stored hledgers hroster hsaves j.clock
  have hresolve : w.resolve key = some student := by
    rw [← hstudent, ← hdesk]
    rfl
  have hselect : selectFor w (some key) = .ok { w with current := some student.id } := by
    rw [selectFor_key, hresolve]
  have hrun := Invocation.run_request hargs hcontext fun _ => nofun
  rw [Request.perform_opened rfl hopen] at hrun
  refine ⟨{ w with current := some student.id }, hdesk, rfl, hdirectory, hstored.selecting _,
    hfollows, ?_⟩
  rw [hrun]
  simp only [Request.inWorkbook, runWords, hselect]
  cases Workbook.runCommand { w with current := some student.id } (" ".intercalate words) with
  | mk o after =>
    cases o.isRejected with
    | true => exact ⟨rfl, rfl, fun _ => rfl⟩
    | false => exact ⟨rfl, rfl, nofun⟩

/-! ### Lines beside runs -/

/-- The files beside a console: runs for the key have left them, and what they hold is in the memory
of the console, but for identities and times. -/
structure Beside (ctx : Context) (tree : FileTree) (key : String) (id : StudentId)
    (w : Desktop κ) (t : FileTree) : Prop where
  selected : w.current = some id
  known : (w.roster.resolve key).map (·.id) = some id
  follows : Follows ctx.home tree t
  stored : ∃ m, Workbook.loadLedgers (FolderStore.mk t ctx.dataDirectory) = .ok m ∧
    m.unmarked = w.desk.ledgers.unmarked

/-- The run reads a line of a console as its words, in the surroundings of the console. -/
structure Invocation.Carries (j i : Invocation κ) (general : General) (key input : String) :
    Prop where
  environment : j.environment = i.environment
  accountHome : j.accountHome = i.accountHome
  workingDirectory : j.workingDirectory = i.workingDirectory
  arguments : readArguments j.arguments j.environment =
    .ok (general, .run (some key) (Text.words input))

omit [IdClock κ] in
theorem Invocation.Carries.home_eq {i j : Invocation κ} {general : General} {key input : String}
    (h : j.Carries i general key input) : j.home = i.home := by
  rw [home, home, h.environment, h.accountHome, h.workingDirectory]

/-- What the words of a line do on ledgers that look the same is what the line does. -/
theorem runCommand_words {v w : Desktop κ} (hcurrent : v.current = w.current)
    (h : v.desk.ledgers.unmarked = w.desk.ledgers.unmarked) (input : String) :
    (v.runCommand (" ".intercalate (Text.words input))).1 = Typed.outcome ⟨input, w⟩ ∧
      (v.runCommand (" ".intercalate (Text.words input))).2.desk.ledgers.unmarked =
        (Typed.after ⟨input, w⟩).desk.ledgers.unmarked := by
  have hwords : Text.words (" ".intercalate (Text.words input)) = Text.words (Text.trim input) := by
    rw [Text.words_intercalate_words, Text.words_trim]
  have hparse := Command.parse_eq_of_words_eq hwords
  obtain ⟨houtcome, hledgers⟩ := Desk.run_alike h w.current (Text.trim input)
  rw [Workbook.ledgers_runCommand, Typed.after, Workbook.ledgers_runCommand, hcurrent,
    Desk.run_eq_of_parse_eq hparse]
  refine ⟨?_, hledgers⟩
  rw [Typed.outcome, Workbook.outcome_runCommand, Workbook.outcome_runCommand, hcurrent,
    Desk.run_eq_of_parse_eq hparse]
  exact houtcome

theorem Beside.step {i j : Invocation κ} {tree t : FileTree} {general : General} {key : String}
    {ctx : Context} {id : StudentId} {w : Desktop κ} {input : String}
    (hsettings : general.SettingsApart i.workingDirectory)
    (hcontext : contextOf general i.environment i.home i.workingDirectory tree = .ok ctx)
    (hplace : ∃ base, tree.LeadsTo ctx.dataDirectory base)
    (hsaves : ∀ c, (FolderStore.mk tree ctx.dataDirectory).CanSave c)
    (h : Beside ctx tree key id w t) (hj : j.Carries i general key input) :
    Typed.MatchedBy ⟨input, w⟩ (j.run t) ∧
      Beside ctx tree key id (Typed.after ⟨input, w⟩) (j.run t).tree := by
  obtain ⟨m, hledgers, halike⟩ := h.stored
  obtain ⟨base, hbase⟩ := hplace
  have hhome := home_of_context hcontext
  have hfollows := h.follows
  rw [hhome] at hfollows
  have hthere : contextOf general j.environment j.home j.workingDirectory t = .ok ctx := by
    rw [hj.home_eq, hj.environment, hj.workingDirectory, contextOf_of_follows hsettings hfollows,
      hcontext]
  have hknown : (m.roster.resolve key).map (·.id) = some id := by
    rw [← h.known]
    apply Roster.id_resolve
    rw [← Roster.register_map_unmarked, ← w.roster.register_map_unmarked]
    exact congrArg (fun l => Roster.register l.roster) halike
  obtain ⟨student, hstudent, hid⟩ := Option.map_eq_some_iff.1 hknown
  have hsavable (c : Collection) : (FolderStore.mk t ctx.dataDirectory).CanSave c :=
    (FolderStore.canSave_of_agreesBut h.follows.agrees hbase c).2 (hsaves c)
  obtain ⟨v, hdesk, hcurrent, hdirectory, hstored, hopened, htree, hexit, hmessage⟩ :=
    Invocation.run_words hj.arguments hthere hledgers hstudent hsavable
  have hselected : v.current = w.current := by rw [hcurrent, hid, h.selected]
  obtain ⟨houtcome, hafter⟩ := runCommand_words hselected (hdesk ▸ halike) input
  rw [houtcome] at hexit hmessage
  refine ⟨⟨hexit, hmessage⟩, ?_⟩
  obtain ⟨hkept, hagrees⟩ := hstored.runCommand (" ".intercalate (Text.words input))
  refine ⟨?_, ?_, ?_, _, ?_, hafter⟩
  · rw [Typed.current_after, h.selected]
  · rw [← h.known]
    exact Roster.id_resolve (Typed.register_after _) key
  · rw [htree]
    exact h.follows.trans (hopened.trans (follows_of_ownNames hagrees))
  · have hload := hkept.loadLedgers
    rw [htree, ← hdirectory, ← Workbook.directory_runCommand v]
    exact hload

/-- The files that runs leave, each on those that the one before left. -/
def treeAfter (tree : FileTree) (results : List (Result κ)) : FileTree :=
  (results.getLast?.map Result.tree).getD tree

omit [IdClock κ] in
theorem treeAfter_cons (tree : FileTree) (r : Result κ) (results : List (Result κ)) :
    treeAfter tree (r :: results) = treeAfter r.tree results := by
  rw [treeAfter, treeAfter, List.getLast?_cons]
  cases results.getLast? <;> rfl

/-- Line by line, runs do what a console does. -/
theorem Beside.runs {i : Invocation κ} {tree t : FileTree} {general : General} {key : String}
    {ctx : Context} {id : StudentId} {w : Desktop κ} {inputs : List String}
    {runs : List (Invocation κ)} (hsettings : general.SettingsApart i.workingDirectory)
    (hcontext : contextOf general i.environment i.home i.workingDirectory tree = .ok ctx)
    (hplace : ∃ base, tree.LeadsTo ctx.dataDirectory base)
    (hsaves : ∀ c, (FolderStore.mk tree ctx.dataDirectory).CanSave c)
    (h : Beside ctx tree key id w t)
    (hruns : List.Forall₂ (fun input j => j.Carries i general key input) inputs runs) :
    List.Forall₂ Typed.MatchedBy (typed w inputs) (runAll t runs) ∧
      Beside ctx tree key id (afterLines w inputs) (treeAfter t (runAll t runs)) := by
  induction hruns generalizing w t with
  | nil => exact ⟨.nil, h⟩
  | cons hj _ ih =>
    obtain ⟨hmatched, hbeside⟩ := h.step hsettings hcontext hplace hsaves hj
    obtain ⟨hrest, hlast⟩ := ih hbeside
    rw [typed, runAll, treeAfter_cons]
    exact ⟨.cons hmatched hrest, hlast⟩

/-- The run that carries a line of a console for a student. -/
def Invocation.forLine (i : Invocation κ) (key input : String) : Invocation κ :=
  { i with arguments := "run" :: studentFlag key :: "--" :: Text.words input }

omit [IdClock κ] in
theorem Invocation.carries_forLine {i : Invocation κ} {general : General} {key input : String}
    (hconsole : i.arguments = ["console", studentFlag key])
    (hargs : readArguments i.arguments i.environment = .ok (general, .console (some key)))
    (hinput : Text.trim input ≠ "") : (i.forLine key input).Carries i general key input where
  environment := rfl
  accountHome := rfl
  workingDirectory := rfl
  arguments := by
    have hwords : Text.words input ≠ [] :=
      fun hnone => hinput (Text.trim_of_no_words (Text.words_eq_iff.1 hnone))
    obtain ⟨word, words, hword⟩ := List.exists_cons_of_ne_nil hwords
    rw [hconsole, readArguments_console] at hargs
    rw [forLine, hword, readArguments_run]
    cases hlevels : General.ofLevels [.empty] i.environment with
    | error stop =>
      rw [hlevels] at hargs
      cases hargs
    | ok other =>
      rw [hlevels] at hargs
      cases hargs
      rfl

theorem trim_of_carried {inputs : List String} :
    ∀ input ∈ carriedLines inputs, Text.trim input ≠ "" := by
  induction inputs with
  | nil => exact nofun
  | cons input rest ih =>
    rw [carriedLines]
    split
    next => exact ih
    next hinput =>
      split
      next => exact nofun
      next => exact List.forall_mem_cons.2 ⟨hinput, ih⟩

omit [IdClock κ] in
/-- Whatever lines a console for a student carries out, there are runs that carry them. -/
theorem Invocation.carries_carriedLines {i : Invocation κ} {general : General} {key : String}
    (hconsole : i.arguments = ["console", studentFlag key])
    (hargs : readArguments i.arguments i.environment = .ok (general, .console (some key)))
    (inputs : List String) :
    List.Forall₂ (fun input j => j.Carries i general key input) (carriedLines inputs)
      ((carriedLines inputs).map (i.forLine key)) := by
  rw [List.forall₂_map_right_iff, List.forall₂_same]
  exact fun input hinput => carries_forLine hconsole hargs (trim_of_carried input hinput)

/-! ### The notice at the milestone -/

/-- The notice follows a line just where the line takes the balance of the student to the milestone
from below it. -/
def Typed.Notices (id : StudentId) (l : Typed κ) : Prop :=
  ∃ old new : Student, old.id = id ∧ new.id = id ∧ l.before.currentStudent = some old ∧
    l.after.currentStudent = some new ∧
    reachedItems l.before l.after =
      if old.stamps.val < 100 ∧ 100 ≤ new.stamps.val then
        [.success s!"{new.name} reached 100 stamps!"] else []

omit [IdClock κ] in
theorem currentStudent_known {w : Desktop κ} {key : String} {id : StudentId}
    (hselected : w.current = some id) (hknown : (w.roster.resolve key).map (·.id) = some id) :
    ∃ s, w.currentStudent = some s ∧ s.id = id := by
  obtain ⟨found, hfound, hid⟩ := Option.map_eq_some_iff.1 hknown
  have hmem : id ∈ w.roster.ids := by
    rw [← hid]
    exact List.mem_map_of_mem (resolve_mem (w := w) hfound)
  obtain ⟨s, hs⟩ := Option.isSome_iff_exists.1 ((w.roster.has_iff id).2 hmem)
  refine ⟨s, ?_, (Roster.get?_some hs).2⟩
  rw [Workbook.currentStudent, hselected]
  exact hs

theorem Typed.notices {l : Typed κ} {key : String} {id : StudentId}
    (hselected : l.before.current = some id)
    (hknown : (l.before.roster.resolve key).map (·.id) = some id) : l.Notices id := by
  obtain ⟨old, hold, holdid⟩ := currentStudent_known hselected hknown
  have hafter : (l.after.roster.resolve key).map (·.id) = some id :=
    (Roster.id_resolve l.register_after key).trans hknown
  obtain ⟨new, hnew, hnewid⟩ := currentStudent_known (l.current_after.trans hselected) hafter
  refine ⟨old, new, holdid, hnewid, hold, hnew, ?_⟩
  have hreaches (s : Student) : s.hasMilestone = true ↔ 100 ≤ s.stamps.val := decide_eq_true_iff
  have hcrosses : (new.hasMilestone && !atMilestone l.before) = true ↔
      old.stamps.val < 100 ∧ 100 ≤ new.stamps.val := by
    rw [atMilestone, hold, Option.any_some, Bool.and_eq_true, Bool.not_eq_true',
      Bool.eq_false_iff, Ne, hreaches, hreaches]
    omega
  have hnotice : s!"{new.name} reached {Student.milestoneStamps} stamps!" =
      s!"{new.name} reached 100 stamps!" := by
    have hrest : " reached " ++ (toString Student.milestoneStamps ++ " stamps!") =
        " reached 100 stamps!" := by decide
    simp only [String.append_assoc]
    exact congrArg (new.name ++ ·) hrest
  simp only [reachedItems, remarkOn, hnew, hcrosses, hnotice]

theorem typed_notices {w : Desktop κ} {key : String} {id : StudentId} {inputs : List String}
    (hselected : w.current = some id) (hknown : (w.roster.resolve key).map (·.id) = some id) :
    ∀ l ∈ typed w inputs, l.Notices id := by
  induction inputs generalizing w with
  | nil => exact nofun
  | cons input rest ih =>
    rw [typed, List.forall_mem_cons]
    refine ⟨Typed.notices hselected hknown, ih ?_ ?_⟩
    · rw [Typed.current_after, hselected]
    · rw [← hknown]
      exact Roster.id_resolve (Typed.register_after _) key

theorem isStored_afterLines {w : Desktop κ} (h : IsStored w) (inputs : List String) :
    IsStored (afterLines w inputs) ∧
      (afterLines w inputs).store.directory = w.store.directory := by
  induction inputs generalizing w with
  | nil => exact ⟨h, rfl⟩
  | cons input rest ih =>
    obtain ⟨hstored, hdirectory⟩ := ih (h.runCommand (Text.trim input)).1
    exact ⟨hstored, hdirectory.trans (w.directory_runCommand _)⟩

/-! ### A console and runs -/

/-- A console for a student prints and stores what runs of its lines do, one for each line. -/
theorem console_equals_runs {i : Invocation κ} {tree : FileTree} {general : General} {key : String}
    {ctx : Context} {ledgers : Ledgers} {student : Student} {runs : List (Invocation κ)}
    (hargs : readArguments i.arguments i.environment = .ok (general, .console (some key)))
    (hsettings : general.SettingsApart i.workingDirectory)
    (hcontext : contextOf general i.environment i.home i.workingDirectory tree = .ok ctx)
    (hledgers : Workbook.loadLedgers (FolderStore.mk tree ctx.dataDirectory) = .ok ledgers)
    (hstudent : ledgers.roster.resolve key = some student)
    (hsaves : ∀ c, (FolderStore.mk tree ctx.dataDirectory).CanSave c)
    (hruns : List.Forall₂ (fun input j => j.Carries i general key input)
      (carriedLines (inputLines i.input)) runs) :
    ∃ w, openConsole ctx tree i.clock (some key) = .ok w ∧
      let lines := typed w (carriedLines (inputLines i.input))
      (i.run tree).exitCode = 0 ∧
      (i.run tree).items.filter (!·.isPrompt) = greeting w :: lines.flatMap (·.items ctx) ∧
      (∀ l ∈ lines, l.Notices student.id) ∧
      List.Forall₂ Typed.MatchedBy lines (runAll tree runs) ∧
      ∃ l m, Workbook.loadLedgers (FolderStore.mk (i.run tree).tree ctx.dataDirectory) = .ok l ∧
        Workbook.loadLedgers (FolderStore.mk (treeAfter tree (runAll tree runs))
          ctx.dataDirectory) = .ok m ∧
        m.unmarked = l.unmarked := by
  have hroster : ledgers.roster ≠ [] := by
    intro hnil
    rw [hnil] at hstudent
    cases hstudent
  obtain ⟨opened, hopen, hdesk, hdirectory, hstored, -⟩ :=
    Context.open_stored hledgers hroster hsaves i.clock
  have hresolve : opened.resolve key = some student := by
    rw [← hstudent, ← hdesk]
    rfl
  let w : Desktop κ := { opened with current := some student.id }
  have hconsole : openConsole ctx tree i.clock (some key) = .ok w := by
    simp only [openConsole, hopen, selectFor_key, hresolve]
    rfl
  have hknown : (w.roster.resolve key).map (·.id) = some student.id :=
    congrArg (Option.map fun s : Student => s.id) hresolve
  have hrun := Invocation.run_console hargs hcontext
  rw [hconsole] at hrun
  obtain ⟨hitems, hlast⟩ := consoleRun_eq_typed ctx w (inputLines i.input)
  obtain ⟨hkept, hplace⟩ := isStored_afterLines (hstored.selecting student.id)
    (carriedLines (inputLines i.input))
  have hbeside : Beside ctx tree key student.id w tree :=
    ⟨rfl, hknown, .refl _ _, ledgers, hledgers, by rw [← hdesk]⟩
  have hbase : ∃ base, tree.LeadsTo ctx.dataDirectory base :=
    FolderStore.leadsTo_of_loaded (Workbook.loadLedgers_ok hledgers .students) hroster
  obtain ⟨hmatched, hend⟩ := hbeside.runs hsettings hcontext hbase hsaves hruns
  obtain ⟨m, hm, halike⟩ := hend.stored
  refine ⟨w, hconsole, ?_, ?_, typed_notices rfl hknown, hmatched, _, m, ?_, hm, halike⟩
  · rw [hrun]
  · rw [hrun, ← hitems]
    refine List.filter_cons_of_pos ?_
    rw [isPrompt_greeting, Bool.not_false]
  · have hload := hkept.loadLedgers
    have htree : (i.run tree).tree =
        (afterLines w (carriedLines (inputLines i.input))).store.tree := by
      rw [hrun, ← hlast]
      rfl
    rw [htree, ← hdirectory, ← hplace]
    exact hload

/-- A console for a student of the directory that the environment names. -/
def consoleForKim : Invocation SequentialClock :=
  ⟨["console", studentFlag "Kim"], [("TUTOR_DATA_DIR", "d"), ("HOME", "/home")], none, ["home"],
    false, .new .epoch 0, " !stamp  +3\n\nstamp\nexit\n!stamp +5\n"⟩

theorem inputLines_eq (input : String) :
    inputLines input =
      let lines := (input.toList.splitOn '\n').map String.ofList
      if lines.getLast? = some "" then lines.dropLast else lines := by
  have hbreak : "\n" = String.ofList ['\n'] := rfl
  have hsplit := Text.splitOn_char input '\n'
  rw [← hbreak] at hsplit
  rw [inputLines, hsplit]

theorem canSave_rememberingHome (c : Collection) :
    (FolderStore.mk (rememberingHome [Student.new "student-1" "Kim"]) ["home", "d"]).CanSave c := by
  have hplace : (rememberingHome [Student.new "student-1" "Kim"]).LeadsTo ["home", "d"]
    ["home", "d"] := ⟨rfl, rfl⟩
  rw [FolderStore.canSave_iff
    (s := ⟨rememberingHome [Student.new "student-1" "Kim"], ["home", "d"]⟩)
    (FileTree.reachDirectory_of_leadsTo hplace) hplace]
  cases c <;> decide

theorem console_for_kim_equals_runs :
    let tree := rememberingHome [Student.new "student-1" "Kim"]
    let runs := (carriedLines (inputLines consoleForKim.input)).map (consoleForKim.forLine "Kim")
    let console := FolderStore.mk (consoleForKim.run tree).tree ["home", "d"]
    let separate := FolderStore.mk (treeAfter tree (runAll tree runs)) ["home", "d"]
    readArguments consoleForKim.arguments consoleForKim.environment =
        .ok (⟨.table, some "d", none, false, false⟩, .console (some "Kim")) ∧
      carriedLines (inputLines consoleForKim.input) = [" !stamp  +3", "stamp"] ∧
      (∀ c, (FolderStore.mk tree ["home", "d"]).CanSave c) ∧
      (consoleForKim.run tree).exitCode = 0 ∧
      ∃ l m, Workbook.loadLedgers console = .ok l ∧ Workbook.loadLedgers separate = .ok m ∧
        m.unmarked = l.unmarked := by
  intro tree runs console separate
  have hargs : readArguments consoleForKim.arguments consoleForKim.environment =
      .ok (⟨.table, some "d", none, false, false⟩, .console (some "Kim")) := rfl
  have hlines : carriedLines (inputLines consoleForKim.input) = [" !stamp  +3", "stamp"] := by
    rw [inputLines_eq]
    rfl
  have hfile : Settings.locateFile tree ["home"] homeSettings = none := by
    rw [Settings.locateFile, path_homeSettings]
    rfl
  obtain ⟨ctx, hcontext, -, -, hdirectory⟩ :=
    contextOf_home .table consoleForKim.environment hfile rfl
  have hledgers := loadLedgers_rememberingHome [Student.new "student-1" "Kim"]
  have hsaves := canSave_rememberingHome
  rw [← hdirectory] at hledgers hsaves
  have hsettings : General.SettingsApart ⟨.table, some "d", none, false, false⟩
      consoleForKim.workingDirectory := by
    intro path hpath
    cases hpath
  have hruns := Invocation.carries_carriedLines rfl hargs (inputLines consoleForKim.input)
  obtain ⟨-, -, hexit, -, -, -, hstored⟩ := console_equals_runs hargs hsettings hcontext hledgers
    rfl hsaves hruns
  rw [hdirectory] at hstored
  exact ⟨hargs, hlines, canSave_rememberingHome, hexit, hstored⟩

end Terminal

end Gradebook
