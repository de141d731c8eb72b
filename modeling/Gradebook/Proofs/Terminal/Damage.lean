import Gradebook.Proofs.Store.Folder
import Gradebook.Proofs.Workbook.Saving
import Gradebook.Terminal.Program

/-!
# Damaged collections

All three collections are loaded before anything is written, and the remembered selection is looked
at only after that.  So a collection file that cannot be read or decoded, whichever it is, stops
every run that works on the ledgers of its directory, and the run leaves every file as it was.
-/

namespace Gradebook

open FileTree (LeadsTo)

/-- What may stand in the place of a collection's file and holds no records of the collection: a
directory, bytes that are no text, and text, not blank, that is no JSON or is not that of such
records. -/
inductive Node.Damaged (c : Collection) : Node → Prop
  | directory : Damaged c .directory
  | notText (b : List UInt8) : Damaged c (.file (.bytes b))
  | malformed {text : String} (hblank : Text.isAllBlank text = false)
      (hread : Json.Value.read? text = none) : Damaged c (.file (.text text))
  | foreign {text : String} {v : Json.Value} (hblank : Text.isAllBlank text = false)
      (hread : Json.Value.read? text = some v) (hrecords : c.ofJson? v = none) :
    Damaged c (.file (.text text))

/-- One of the collection files in a directory is damaged. -/
def FileTree.HoldsDamage (t : FileTree) (place : Path) : Prop :=
  ∃ c n, t.node? (place ++ [FolderStore.fileName c]) = some n ∧ n.Damaged c

/-- The damaged files are those that are not loaded. -/
theorem Node.damaged_iff (c : Collection) (n : Node) :
    n.Damaged c ↔ ∃ f, FolderStore.loadEntry c (some n) = .error f := by
  constructor
  · intro h
    cases h with
    | directory => exact ⟨_, rfl⟩
    | notText b => exact ⟨_, rfl⟩
    | malformed hblank hread =>
      refine (FolderStore.decode_error_iff c _).2 ⟨hblank, ?_⟩
      rw [hread, Option.bind_none]
    | foreign hblank hread hrecords =>
      refine (FolderStore.decode_error_iff c _).2 ⟨hblank, ?_⟩
      rw [hread, Option.bind_some, hrecords]
  · rintro ⟨f, h⟩
    cases n with
    | directory => exact .directory
    | file content =>
      cases content with
      | bytes b => exact .notText b
      | text text =>
        obtain ⟨hblank, hrecords⟩ := (FolderStore.decode_error_iff c text).1 ⟨f, h⟩
        cases hread : Json.Value.read? text with
        | none => exact .malformed hblank hread
        | some v =>
          rw [hread, Option.bind_some] at hrecords
          exact .foreign hblank hread hrecords

theorem FolderStore.load_error_iff {s : FolderStore} {place : Path}
    (hplace : s.tree.LeadsTo s.directory place) (c : Collection) :
    (∃ f, CollectionStore.load s c = .error f) ↔
      ∃ n, s.tree.node? (place ++ [fileName c]) = some n ∧ n.Damaged c := by
  rw [load_of_leadsTo hplace]
  cases s.tree.node? (place ++ [fileName c]) with
  | none =>
    constructor
    · rintro ⟨f, hf⟩
      cases hf
    · rintro ⟨n, hn, -⟩
      cases hn
  | some n =>
    rw [← Node.damaged_iff]
    constructor
    · intro hdamaged
      exact ⟨n, rfl, hdamaged⟩
    · rintro ⟨m, hm, hdamaged⟩
      cases hm
      exact hdamaged

/-- In a directory that is there, opening fails just where a collection is damaged, whichever it
is. -/
theorem Workbook.open_error_iff {κ : Type} {s : FolderStore} {place : Path}
    (hplace : s.tree.LeadsTo s.directory place) (clock : κ) (tally : Tally) :
    (∃ f, Workbook.open s clock tally = .error f) ↔ s.tree.HoldsDamage place := by
  constructor
  · rintro ⟨f, hf⟩
    apply Classical.byContradiction
    intro hwhole
    have hloads : ∀ c, ∃ records, CollectionStore.load s c = .ok records := by
      intro c
      cases hload : CollectionStore.load s c with
      | ok records => exact ⟨records, rfl⟩
      | error g => exact absurd ⟨c, (FolderStore.load_error_iff hplace c).1 ⟨g, hload⟩⟩ hwhole
    obtain ⟨roster, hroster⟩ := hloads .students
    obtain ⟨grades, hgrades⟩ := hloads .grades
    obtain ⟨rewards, hrewards⟩ := hloads .rewards
    have hopen : Workbook.open s clock tally =
        .ok ⟨⟨⟨roster, grades, rewards⟩, clock, tally⟩, s, none⟩ := by
      apply Workbook.open_eq
      intro c
      cases c with
      | students => exact hroster
      | grades => exact hgrades
      | rewards => exact hrewards
    cases hf.symm.trans hopen
  · rintro ⟨c, hdamaged⟩
    obtain ⟨f, hload⟩ := (FolderStore.load_error_iff hplace c).2 hdamaged
    cases hopen : Workbook.open s clock tally with
    | error g => exact ⟨g, rfl⟩
    | ok w => cases hload.symm.trans ((Workbook.open_ok hopen).2 c)

namespace Terminal

/-- The requests that work on the ledgers, and not on the preferences alone. -/
def Request.usesLedgers : Request → Bool
  | addStudent .. | listStudents _ | selectStudent _ | showStudent _ | run .. | console _
  | listHomework .. | completeHomework .. | rankings | recentStamps _ | resetStamps ..
  | recentGrades _ | wrongAnswers .. => true
  | setPreference .. | getPreference _ | showPreferences | resetPreferences _ => false

/-- The arguments, the surroundings and the input of a run, but for the files. -/
structure Invocation (κ : Type) where
  arguments : List String
  environment : List (String × String)
  accountHome : Option String
  workingDirectory : Path
  isTerminal : Bool
  clock : κ
  input : String

variable {κ : Type}

def Invocation.home (i : Invocation κ) : Option Preferences.Home :=
  homeOf i.environment i.accountHome i.workingDirectory

variable [IdClock κ] {tree : FileTree} {place : Path}

def Invocation.run (i : Invocation κ) (tree : FileTree) : Result κ :=
  program ⟨i.arguments, i.environment, i.accountHome, i.workingDirectory, i.isTerminal, tree,
    i.clock⟩ i.input

/-- A run that asks for neither help nor the version and, where its arguments and settings can be
used, works on the ledgers in the directory at a place. -/
def Invocation.WorksIn (i : Invocation κ) (tree : FileTree) (place : Path) : Prop :=
  match readArguments i.arguments i.environment with
  | .error stop => stop = .usage
  | .ok (general, request) =>
    request.usesLedgers = true ∧
      ∀ ctx, contextOf general i.environment i.home i.workingDirectory tree = .ok ctx →
        tree.LeadsTo ctx.dataDirectory place

omit [IdClock κ] in
theorem Context.open_damaged {ctx : Context} (hplace : tree.LeadsTo ctx.dataDirectory place)
    (hdamage : tree.HoldsDamage place) (clock : κ) :
    ∃ f, ctx.open tree clock = .error (f, tree) := by
  obtain ⟨⟨f, tally⟩, hopen⟩ :=
    (Workbook.open_error_iff (s := ⟨tree, ctx.dataDirectory⟩) hplace clock .empty).2 hdamage
  simp only [Context.open, hopen]
  exact ⟨_, rfl⟩

/-- Every request on the ledgers, a console also, begins by opening the workbook. -/
theorem Request.perform_unopened {ctx : Context} {clock : κ} {f : Failure} {r : Request}
    (hr : r.usesLedgers = true) (hopen : ctx.open tree clock = .error (f, tree)) :
    r.perform ctx tree clock = ⟨[], tree, clock, some f⟩ := by
  cases r with
  | setPreference | getPreference | showPreferences | resetPreferences => cases hr
  | addStudent | listStudents | selectStudent | showStudent | run | console | listHomework
  | completeHomework | rankings | recentStamps | resetStamps | recentGrades | wrongAnswers =>
    simp only [perform, hopen]

theorem Invocation.run_damaged {i : Invocation κ} (hi : i.WorksIn tree place)
    (hdamage : tree.HoldsDamage place) :
    (i.run tree).exitCode ≠ 0 ∧ (i.run tree).tree = tree := by
  unfold WorksIn home at hi
  unfold run program start
  cases hargs : readArguments i.arguments i.environment with
  | error stop =>
    rw [hargs] at hi
    cases hi
    exact ⟨nofun, rfl⟩
  | ok asked =>
    obtain ⟨general, request⟩ := asked
    rw [hargs] at hi
    obtain ⟨hrequest, hwhere⟩ := hi
    simp only
    cases hcontext : contextOf general i.environment
        (homeOf i.environment i.accountHome i.workingDirectory) i.workingDirectory tree with
    | error message => exact ⟨nofun, rfl⟩
    | ok ctx =>
      obtain ⟨f, hopen⟩ := Context.open_damaged (hwhere ctx hcontext) hdamage i.clock
      have hperform := request.perform_unopened hrequest hopen
      cases request with
      | console key =>
        simp only [openConsole, hopen]
        exact ⟨nofun, rfl⟩
      | _ =>
        simp only [hperform]
        exact ⟨nofun, rfl⟩

/-- A data directory that the arguments name is where the run works, whatever the preferences and
settings name. -/
theorem dataDirectory_of_named {general : General} {environment : List (String × String)}
    {home : Option Preferences.Home} {workingDirectory : Path} {ctx : Context} {name : String}
    (hname : general.dataDirectory = some name)
    (hcontext : contextOf general environment home workingDirectory tree = .ok ctx) :
    ctx.dataDirectory = Path.ofText workingDirectory name := by
  simp only [contextOf, hname, Option.some_or, Option.getD_some] at hcontext
  split at hcontext
  next => cases hcontext
  next settings _ =>
    generalize (if general.verbose = true then settings.withLevel "debug" else settings) = chosen
      at hcontext
    split at hcontext
    · cases hcontext
    · cases hcontext
      rfl

/-- The results of runs, each on the files that the one before leaves. -/
def runAll (tree : FileTree) : List (Invocation κ) → List (Result κ)
  | [] => []
  | i :: rest => i.run tree :: runAll (i.run tree).tree rest

/-- A damaged ledger is never overwritten: where a collection file is damaged, runs on the ledgers
of its directory, however many and whatever they ask for, all fail, and each leaves every file as
it was. -/
theorem damaged_ledger_is_never_overwritten (hdamage : tree.HoldsDamage place)
    (invocations : List (Invocation κ)) (hinvocations : ∀ i ∈ invocations, i.WorksIn tree place) :
    ∀ r ∈ runAll tree invocations, r.exitCode ≠ 0 ∧ r.tree = tree := by
  induction invocations with
  | nil => exact nofun
  | cons i rest ih =>
    have hfirst := Invocation.run_damaged (hinvocations i List.mem_cons_self) hdamage
    have hrest := ih fun j hj => hinvocations j (List.mem_cons_of_mem i hj)
    intro r hr
    rw [runAll, hfirst.2] at hr
    rcases List.mem_cons.1 hr with rfl | hmem
    · exact hfirst
    · exact hrest r hmem

theorem damaged_rewards_are_never_overwritten :
    let tree : FileTree := ⟨[(["home", "d", "tutor-rewards.json"], .file (.bytes [0x5B, 0xFF])),
      (["home", "d"], .directory), (["home"], .directory)]⟩
    let add : Invocation SequentialClock :=
      ⟨["--data-dir", "d", "student", "add", "Kim", "--select"], [("HOME", "/home")], none,
        ["home"], false, .new .epoch 0, ""⟩
    let console : Invocation SequentialClock :=
      ⟨["console"], [("TUTOR_DATA_DIR", "d")], none, ["home"], true, .new .epoch 0,
        "!stamp +3\nexit\n"⟩
    tree.HoldsDamage ["home", "d"] ∧ add.WorksIn tree ["home", "d"] ∧
      console.WorksIn tree ["home", "d"] ∧
      ∀ r ∈ runAll tree [add, console, add], r.exitCode ≠ 0 ∧ r.tree = tree := by
  intro tree add console
  have hdamage : tree.HoldsDamage ["home", "d"] := by
    exact ⟨.rewards, _, rfl, .notText [0x5B, 0xFF]⟩
  have hpath : Path.ofText ["home"] "d" = ["home", "d"] := by
    have hnames : "d".splitOn "/" = ["d"] := by
      simp only [String.splitOn]
      rw [String.splitOnAux, String.splitOnAux]
      decide
    have hroot : "d".startsWith "/" = false := by decide +kernel
    simp only [Path.ofText, hnames, hroot]
    decide
  have hadd : add.WorksIn tree ["home", "d"] := by
    have hargs : readArguments add.arguments add.environment =
        .ok (⟨.table, some "d", none, false, false⟩, .addStudent "Kim" true) := rfl
    rw [Invocation.WorksIn, hargs]
    refine ⟨rfl, fun ctx hctx => ?_⟩
    rw [dataDirectory_of_named rfl hctx, hpath]
    exact ⟨rfl, rfl⟩
  have hconsole : console.WorksIn tree ["home", "d"] := by
    have hargs : readArguments console.arguments console.environment =
        .ok (⟨.table, some "d", none, false, false⟩, .console none) := rfl
    rw [Invocation.WorksIn, hargs]
    refine ⟨rfl, fun ctx hctx => ?_⟩
    rw [dataDirectory_of_named rfl hctx, hpath]
    exact ⟨rfl, rfl⟩
  refine ⟨hdamage, hadd, hconsole, ?_⟩
  apply damaged_ledger_is_never_overwritten hdamage
  simp only [List.mem_cons, List.not_mem_nil, or_false]
  rintro i (rfl | rfl | rfl)
  · exact hadd
  · exact hconsole
  · exact hadd

end Terminal

end Gradebook
