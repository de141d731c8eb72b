import Gradebook.Proofs.Record.RoundTrip
import Gradebook.Proofs.Terminal.Session

/-!
# Documents

With JSON output a request on the ledgers prints one document and nothing else, with two exceptions
that print a marked line whatever the format: the reset of a balance, which prints no document, and
a run after which the student is at the milestone, which prints the line behind its document.
-/

namespace Gradebook

open Json (Value tokens?)

namespace Json

theorem tokens?_refused {c : Char} {rest : List Char} (hs : isSpace c = false)
    (h : token? c rest = none) : tokens? (c :: rest) = none := by
  rw [tokens?, if_neg (by simp [hs])]
  split
  · rfl
  next h' =>
    rw [h] at h'
    cases h'

theorem Value.tokens?_layout_refused {v : Value} (hv : v.IsWritable) {rest : List Char}
    (hrest : tokens? rest = none) : tokens? (v.layout 0 ++ '\n' :: rest) = none := by
  rw [tokens?_layout 0 v _ hv (endsNumber_cons (by decide)), tokens?_space (by decide), hrest]
  rfl

end Json

theorem isWritable_instant (t : Time.Instant) : t.toJson.IsWritable :=
  Value.isWritable_string _

theorem isWritable_count (n : Count) : n.toJson.IsWritable :=
  Value.isWritable_integer _

theorem isWritable_map {α : Type} {f : α → Value} (h : ∀ a, (f a).IsWritable) (l : List α) :
    (Value.array (l.map f)).IsWritable := by
  apply Value.isWritable_array
  simp [h]

theorem Ranking.isWritable_toJson (r : Ranking) : r.toJson.IsWritable := by
  have hnull : Value.null.IsWritable := Value.isWritable_of_token rfl trivial
  apply Value.isWritable_object
  cases r.lastStampAt <;>
    simp [Value.isWritable_string, Value.isWritable_bool, isWritable_count, isWritable_instant,
      hnull]

theorem Summary.isWritable_members (s : Summary) : ∀ m ∈ s.members, m.2.IsWritable := by
  simp [members, Value.isWritable_string, Value.isWritable_bool, Value.isWritable_integer,
    isWritable_count]

namespace Terminal

theorem RosterRow.isWritable_toJson (r : RosterRow) : r.toJson.IsWritable := by
  apply Value.isWritable_object
  simp [Value.isWritable_string, Value.isWritable_integer, isWritable_count]

theorem Card.isWritable_toJson (c : Card) : c.toJson.IsWritable := by
  apply Value.isWritable_object
  intro m hm
  rcases List.mem_append.1 hm with hsummary | hlists
  · exact c.summary.isWritable_members m hsummary
  · simp only [List.mem_cons, List.not_mem_nil, or_false] at hlists
    rcases hlists with rfl | rfl
    · exact isWritable_map LogEntry.isWritable_toJson _
    · exact isWritable_map Homework.isWritable_toJson _

theorem isWritable_homeworkRow (zone : Time.Zone) (h : Homework) :
    (Value.object (homeworkRow zone h)).IsWritable := by
  apply Value.isWritable_object
  simp [homeworkRow, Value.isWritable_string, Value.isWritable_bool]

theorem isWritable_reportJson (line : String) (o : Outcome) : (reportJson line o).IsWritable := by
  have hsaved : (Value.array (o.touched.map fun c => .string c.name)).IsWritable :=
    isWritable_map (fun _ => Value.isWritable_string _) _
  apply Value.isWritable_object
  simp [Value.isWritable_string, hsaved]

/-! ### What is printed -/

/-- One value as it is laid out, and a line break. -/
def IsDocument (text : String) : Prop :=
  ∃ v : Value, text = v.pretty ++ "\n" ∧ Value.read? v.pretty = some v

theorem isDocument_json (colour : Bool) {v : Value} (hv : v.IsWritable) :
    IsDocument (Print.output colour [.json v]) :=
  ⟨v, by simp [Print.output, Print.isError, Print.render], Value.read?_pretty hv⟩

/-- No value begins with the sign of a style or as a mark does, after its bracket. -/
theorem tokens?_marked (colour : Bool) (code text : String) {mark : String} {c : Char}
    {more : List Char} (hmark : mark.toList = '[' :: c :: more)
    (hc : Json.isSpace c = false ∧ ∀ rest, Json.token? c rest = none) :
    tokens? (Print.marked colour code mark text).toList = none := by
  cases colour with
  | true =>
    have hstyle : ∃ rest, (Print.marked true code mark text).toList = '\x1b' :: rest := by
      simp [Print.marked, styled]
    obtain ⟨rest, hrest⟩ := hstyle
    rw [hrest]
    exact Json.tokens?_refused (by decide) rfl
  | false =>
    have hplain : ∃ rest, (Print.marked false code mark text).toList = '[' :: c :: rest := by
      simp [Print.marked, styled, hmark]
    obtain ⟨rest, hrest⟩ := hplain
    have hopen : tokens? ('[' :: c :: rest) = (Json.Token.openArray :: ·) <$> tokens? (c :: rest) :=
      Json.tokens?_cons (by decide) rfl
    rw [hrest, hopen, Json.tokens?_refused hc.1 (hc.2 rest)]
    rfl

theorem tokens?_success (colour : Bool) (text : String) :
    tokens? ((Print.success text).render colour).toList = none :=
  tokens?_marked colour "1;32" text rfl ⟨by decide, fun _ => rfl⟩

theorem tokens?_info (colour : Bool) (text : String) :
    tokens? ((Print.info text).render colour).toList = none :=
  tokens?_marked colour "1;34" text rfl ⟨by decide, fun _ => rfl⟩

theorem read?_line {p : Print} (hp : p.isError = false) {colour : Bool}
    (h : tokens? (p.render colour).toList = none) : Value.read? (Print.output colour [p]) = none := by
  simp [Print.output, hp, Value.read?, h]

theorem read?_document_line {p : Print} (hp : p.isError = false) {colour : Bool}
    (h : tokens? (p.render colour).toList = none) {v : Value} (hv : v.IsWritable) :
    Value.read? (Print.output colour [.json v, p]) = none := by
  have htext : (Print.output colour [.json v, p]).toList =
      v.layout 0 ++ '\n' :: (p.render colour).toList := by
    have hrender : (Print.json v).render colour = v.pretty ++ "\n" := rfl
    have hjson : (Print.json v).isError = false := rfl
    simp [Print.output, hjson, hp, hrender, Value.pretty]
  rw [Value.read?, htext, Value.tokens?_layout_refused hv h]
  rfl

/-! ### Requests on a workbook -/

variable {κ : Type}

/-- What is printed by a reply that has not failed, where it adds a remark and where it does not. -/
def Reply.Prints (r : Reply κ) (remark : Prop) : Prop :=
  r.failure = none →
    (¬ remark → ∃ v : Value, v.IsWritable ∧ r.items = [.json v]) ∧
      (remark → ∀ colour, Value.read? (Print.output colour r.items) = none)

theorem Reply.prints_document {r : Reply κ} (h : r.failure = none →
    ∃ v : Value, v.IsWritable ∧ r.items = [.json v]) : r.Prints False :=
  fun hdone => ⟨fun _ => h hdone, False.elim⟩

theorem prints_failed (w : Desktop κ) (f : Failure) (remark : Prop) : (w.failed f).Prints remark :=
  nofun

theorem prints_done (w : Desktop κ) {v : Value} (hv : v.IsWritable) :
    (w.done [.json v]).Prints False :=
  Reply.prints_document fun _ => ⟨v, hv, rfl⟩

theorem prints_remark (w : Desktop κ) {p : Print} (hp : p.isError = false)
    (h : ∀ colour, tokens? (p.render colour).toList = none) : (w.done [p]).Prints True :=
  fun _ => ⟨fun hremark => absurd trivial hremark, fun _ colour => read?_line hp (h colour)⟩

variable [IdClock κ]

omit [IdClock κ] in
theorem prints_ofStudent (w : Desktop κ) (key : Option String) {document : Student → Value}
    (h : ∀ s, (document s).IsWritable) :
    (match w.targetStudent key with
      | .error f => w.failed f
      | .ok s => w.done [.json (document s)]).Prints False := by
  cases w.targetStudent key with
  | error f => exact prints_failed w f _
  | ok s => exact prints_done w (h s)

theorem prints_addStudent {ctx : Context} (hformat : ctx.format = .json) (w : Desktop κ)
    (name : String) (select : Bool) : (addStudent ctx w name select).Prints False := by
  unfold addStudent
  cases w.addStudent name with
  | mk result after =>
    cases result with
    | error f => exact prints_failed after _ _
    | ok s =>
      simp only [hformat]
      split
      · exact prints_failed _ _ _
      · exact prints_done _ s.isWritable_toJson

omit [IdClock κ] in
theorem prints_selectStudent {ctx : Context} (hformat : ctx.format = .json) (w : Desktop κ)
    (key : String) : (selectStudent ctx w key).Prints False := by
  unfold selectStudent
  cases w.targetStudent (some key) with
  | error f => exact prints_failed w f _
  | ok s =>
    simp only [hformat]
    split
    · exact prints_failed _ _ _
    · exact prints_done _ s.isWritable_toJson

omit [IdClock κ] in
theorem prints_completeHomework {ctx : Context} (hformat : ctx.format = .json) (w : Desktop κ)
    (homework : String) (key : Option String) :
    (completeHomework ctx w homework key).Prints False := by
  have hdocument :
      (Value.object [("completed", .bool true), ("id", .string homework)]).IsWritable := by
    apply Value.isWritable_object
    simp [Value.isWritable_bool, Value.isWritable_string]
  unfold completeHomework
  cases w.target key with
  | error f => exact prints_failed w f _
  | ok id =>
    simp only [hformat]
    split
    · exact prints_failed _ _ _
    · exact prints_done _ hdocument

omit [IdClock κ] in
theorem prints_resetStamps (w : Desktop κ) (key : Option String) (force : Bool) :
    (resetStamps w key force).Prints True := by
  unfold resetStamps
  cases w.targetStudent key with
  | error f => exact prints_failed w f _
  | ok s =>
    simp only
    split
    · exact prints_remark w rfl fun colour => tokens?_info colour _
    · split
      · exact prints_failed _ _ _
      · exact prints_remark _ rfl fun colour => tokens?_success colour _

omit [IdClock κ] in
theorem milestoneItems_currentStudent (w : Desktop κ) :
    (atMilestone w = true → ∃ text, milestoneItems w.currentStudent = [.success text]) ∧
      (atMilestone w = false → milestoneItems w.currentStudent = []) := by
  unfold atMilestone milestoneItems remarkOn
  cases w.currentStudent with
  | none => simp
  | some s => cases hs : s.hasMilestone <;> simp [hs]

omit [IdClock κ] in
theorem prints_reported (w : Desktop κ) (line : String) (o : Outcome) :
    (w.done (.json (reportJson line o) :: milestoneItems w.currentStudent)).Prints
      (atMilestone w = true) := by
  have hvalue := isWritable_reportJson line o
  obtain ⟨hreached, hbelow⟩ := milestoneItems_currentStudent w
  intro _
  constructor
  · intro hremark
    rw [hbelow (eq_false_of_ne_true hremark)]
    exact ⟨_, hvalue, rfl⟩
  · intro hremark colour
    obtain ⟨text, htext⟩ := hreached hremark
    rw [htext]
    exact read?_document_line rfl (tokens?_success colour text) hvalue

theorem prints_runWords {ctx : Context} (hformat : ctx.format = .json) {w v : Desktop κ}
    {key : Option String} (hselect : selectFor w key = .ok v) (words : List String) :
    (runWords ctx w key words).Prints
      (atMilestone (v.runCommand (" ".intercalate words)).2 = true) := by
  unfold runWords
  rw [hselect, hformat]
  cases hrun : v.runCommand (" ".intercalate words) with
  | mk o after =>
    simp only [hrun]
    split
    · exact prints_failed _ _ _
    · exact prints_reported after _ o

/-- What a request adds to its output whatever the format: resetting stamps only tells what it did,
and a run tells of a student who is at the milestone after it. -/
def Request.AddsRemark (w : Desktop κ) : Request → Prop
  | resetStamps .. => True
  | run key words => ∃ v, selectFor w key = .ok v ∧
      atMilestone (v.runCommand (" ".intercalate words)).2 = true
  | _ => False

/-- Every request on the ledgers but a console, which is no single request. -/
theorem Request.prints_inWorkbook {ctx : Context} (hformat : ctx.format = .json) (w : Desktop κ)
    {r : Request} (hr : r.usesLedgers = true) (hconsole : ∀ key, r ≠ .console key) :
    (r.inWorkbook ctx w).Prints (r.AddsRemark w) := by
  obtain ⟨format, home, directory, limit, zone⟩ := ctx
  cases hformat
  cases r with
  | setPreference | getPreference | showPreferences | resetPreferences => cases hr
  | console key => exact absurd rfl (hconsole key)
  | addStudent name select => exact prints_addStudent rfl w name select
  | selectStudent key => exact prints_selectStudent rfl w key
  | completeHomework homework key => exact prints_completeHomework rfl w homework key
  | resetStamps key force => exact prints_resetStamps w key force
  | listStudents query => exact prints_done w (isWritable_map RosterRow.isWritable_toJson _)
  | rankings => exact prints_done w (isWritable_map Ranking.isWritable_toJson _)
  | recentStamps limit => exact prints_done w (isWritable_map RewardEntry.isWritable_toJson _)
  | recentGrades limit => exact prints_done w (isWritable_map LogEntry.isWritable_toJson _)
  | showStudent key => exact prints_ofStudent w key fun s => Card.isWritable_toJson _
  | wrongAnswers key today =>
    exact prints_ofStudent w key fun s => isWritable_map LogEntry.isWritable_toJson _
  | listHomework key all =>
    exact prints_ofStudent w key fun s => isWritable_map (isWritable_homeworkRow _) _
  | run key words =>
    cases hselect : selectFor w key with
    | error f =>
      have hfailed : (runWords ⟨.json, home, directory, limit, zone⟩ w key words).failure =
          some f := by
        simp only [runWords, hselect]
        rfl
      intro hdone
      cases hfailed.symm.trans hdone
    | ok v =>
      have hremark : (Request.run key words).AddsRemark w ↔
          atMilestone (v.runCommand (" ".intercalate words)).2 = true := by
        constructor
        · rintro ⟨u, hu, h⟩
          cases hselect.symm.trans hu
          exact h
        · exact fun h => ⟨v, hselect, h⟩
      rw [propext hremark]
      exact prints_runWords rfl hselect words

/-! ### Runs -/

def Result.output (r : Result κ) : String :=
  Print.output r.colour r.items

omit [IdClock κ] in
theorem prints_ofReply {r : Reply κ} {remark : Prop} (h : r.Prints remark) (colour : Bool)
    (hexit : (Result.ofReply colour r).exitCode = 0) :
    (¬ remark → IsDocument (Result.ofReply colour r).output) ∧
      (remark → Value.read? (Result.ofReply colour r).output = none) := by
  unfold Result.ofReply at hexit ⊢
  cases hfailure : r.failure with
  | some f =>
    rw [hfailure] at hexit
    cases hexit
  | none =>
    obtain ⟨hdocument, hremark⟩ := h hfailure
    refine ⟨fun hplain => ?_, fun hadds => hremark hadds colour⟩
    obtain ⟨v, hv, hitems⟩ := hdocument hplain
    simp only [Result.output, hitems]
    exact isDocument_json colour hv

/-- A run with JSON output that works on the ledgers and ends well prints one document, whatever the
ledgers hold, unless it adds a remark; then what it prints is no document. -/
theorem one_document_is_printed {i : Invocation κ} {tree : FileTree} {general : General}
    {request : Request}
    (hargs : readArguments i.arguments i.environment = .ok (general, request))
    (hformat : general.format = .json) (hrequest : request.usesLedgers = true)
    (hconsole : ∀ key, request ≠ .console key) (hexit : (i.run tree).exitCode = 0) :
    ∃ ctx w, contextOf general i.environment i.home i.workingDirectory tree = .ok ctx ∧
      ctx.open tree i.clock = .ok w ∧
      (¬ request.AddsRemark w → IsDocument (i.run tree).output) ∧
      (request.AddsRemark w → Value.read? (i.run tree).output = none) := by
  cases hcontext : contextOf general i.environment i.home i.workingDirectory tree with
  | error message =>
    rw [Invocation.run_unset hargs hcontext] at hexit
    cases hexit
  | ok ctx =>
    have hjson : ctx.format = .json := (format_of_context hcontext).trans hformat
    rw [Invocation.run_request hargs hcontext hconsole] at hexit ⊢
    obtain ⟨f, hopen⟩ | ⟨w, hopen, -⟩ := ctx.open_cases tree i.clock
    · rw [request.perform_unopened hrequest hopen] at hexit
      cases hexit
    · rw [Request.perform_opened hrequest hopen] at hexit ⊢
      exact ⟨ctx, w, rfl, hopen, prints_ofReply
        (Request.prints_inWorkbook hjson w hrequest hconsole) _ hexit⟩

/-! ### A student short of the milestone -/

def shortOfMilestone : Student :=
  { Student.new "student-1" "Kim" with stamps := Count.clamp 98 }

def milestoneHome : FileTree :=
  ⟨[(["home", "d", "tutor-students.json"],
      .file (.text (FolderStore.encode .students [shortOfMilestone]))),
    (["home", "d"], .directory), (["home"], .directory)]⟩

def milestoneDesktop : Desktop SequentialClock :=
  ⟨⟨⟨[shortOfMilestone], [], []⟩, .new .epoch 0, .empty⟩, ⟨milestoneHome, ["home", "d"]⟩, none⟩

/-- A run with JSON output of a line for the student. -/
def typedAtHome (line : String) : Invocation SequentialClock :=
  ⟨["-o", "json", "--data-dir", "d", "run", "--student", "student-1", line],
    [("HOME", "/home")], none, ["home"], false, .new .epoch 0, ""⟩

theorem contextOf_milestoneHome : ∃ ctx,
    contextOf ⟨.json, some "d", none, false, false⟩ [("HOME", "/home")]
        (some ⟨"/home", ["home"]⟩) ["home"] milestoneHome = .ok ctx ∧
      ctx.format = .json ∧
      ctx.open milestoneHome (SequentialClock.new .epoch 0) = .ok milestoneDesktop := by
  have hfile : Settings.locateFile milestoneHome ["home"] homeSettings = none := by
    rw [Settings.locateFile, path_homeSettings]
    rfl
  obtain ⟨ctx, hcontext, hformat, hhome, hdirectory⟩ :=
    contextOf_home .json [("HOME", "/home")] hfile rfl
  have hplace : milestoneHome.LeadsTo ["home", "d"] ["home", "d"] := ⟨rfl, rfl⟩
  have hopen : Workbook.open (FolderStore.mk milestoneHome ["home", "d"])
      (SequentialClock.new .epoch 0) .empty = .ok milestoneDesktop := by
    apply Workbook.open_eq
    intro c
    rw [FolderStore.load_of_leadsTo (s := ⟨milestoneHome, _⟩) hplace]
    cases c with
    | students => exact FolderStore.decode_encode .students _
    | grades => rfl
    | rewards => rfl
  have hvalue : Preferences.value? milestoneHome ctx.home selectionName = none := by
    rw [hhome, Preferences.value?, Preferences.load, filePath_home]
    rfl
  refine ⟨ctx, hcontext, hformat, ?_⟩
  simp only [Context.open, hdirectory, hopen, hvalue]

def milestoneSelected : Desktop SequentialClock :=
  { milestoneDesktop with current := some "student-1" }

theorem selectFor_milestoneDesktop :
    selectFor milestoneDesktop (some "student-1") = .ok milestoneSelected := rfl

theorem run_typedAtHome {line : String}
    (hargs : readArguments (typedAtHome line).arguments (typedAtHome line).environment =
      .ok (⟨.json, some "d", none, false, false⟩, .run (some "student-1") [line]))
    (haccepted : (milestoneSelected.runCommand line).1.isRejected = false) :
    ∃ ctx : Context, ctx.format = .json ∧
      (typedAtHome line).run milestoneHome =
        .ofReply (colourOf false (typedAtHome line).environment false)
          (runWords ctx milestoneDesktop (some "student-1") [line]) ∧
      ((typedAtHome line).run milestoneHome).exitCode = 0 := by
  obtain ⟨ctx, hcontext, hformat, hopen⟩ := contextOf_milestoneHome
  have hperform : (Request.run (some "student-1") [line]).perform ctx milestoneHome
      (typedAtHome line).clock = runWords ctx milestoneDesktop (some "student-1") [line] :=
    Request.perform_opened rfl hopen
  have hrun : (typedAtHome line).run milestoneHome =
      .ofReply (colourOf false (typedAtHome line).environment false)
        (runWords ctx milestoneDesktop (some "student-1") [line]) := by
    rw [Invocation.run_request hargs hcontext (fun _ => nofun), hperform]
    rfl
  have hline : " ".intercalate [line] = line := rfl
  have hdone : (runWords ctx milestoneDesktop (some "student-1") [line]).failure = none := by
    simp only [runWords, selectFor_milestoneDesktop, hline, haccepted]
    rfl
  refine ⟨ctx, hformat, hrun, ?_⟩
  rw [hrun, Result.ofReply, hdone]

theorem one_stamp_prints_one_document :
    readArguments (typedAtHome "!stamp +1").arguments (typedAtHome "!stamp +1").environment =
        .ok (⟨.json, some "d", none, false, false⟩, .run (some "student-1") ["!stamp +1"]) ∧
      ((typedAtHome "!stamp +1").run milestoneHome).exitCode = 0 ∧
      IsDocument ((typedAtHome "!stamp +1").run milestoneHome).output := by
  have hargs : readArguments (typedAtHome "!stamp +1").arguments
      (typedAtHome "!stamp +1").environment =
        .ok (⟨.json, some "d", none, false, false⟩, .run (some "student-1") ["!stamp +1"]) := rfl
  obtain ⟨-, -, -, hexit⟩ := run_typedAtHome hargs (by decide +kernel)
  obtain ⟨ctx, w, hcontext, hopen, hdocument, -⟩ :=
    one_document_is_printed hargs rfl rfl (fun _ => nofun) hexit
  refine ⟨hargs, hexit, hdocument ?_⟩
  obtain ⟨known, hknown, -, hdesktop⟩ := contextOf_milestoneHome
  cases hknown.symm.trans hcontext
  cases hdesktop.symm.trans hopen
  rintro ⟨v, hv, hreached⟩
  cases selectFor_milestoneDesktop.symm.trans hv
  have hbelow : atMilestone (milestoneSelected.runCommand "!stamp +1").2 = false := by
    decide +kernel
  cases hbelow.symm.trans hreached

/-- The line that reaches the milestone: its document is followed by a remark. -/
theorem reached_milestone_prints_no_document :
    readArguments (typedAtHome "!stamp +2").arguments (typedAtHome "!stamp +2").environment =
        .ok (⟨.json, some "d", none, false, false⟩, .run (some "student-1") ["!stamp +2"]) ∧
      ((typedAtHome "!stamp +2").run milestoneHome).exitCode = 0 ∧
      Value.read? ((typedAtHome "!stamp +2").run milestoneHome).output = none := by
  have hargs : readArguments (typedAtHome "!stamp +2").arguments
      (typedAtHome "!stamp +2").environment =
        .ok (⟨.json, some "d", none, false, false⟩, .run (some "student-1") ["!stamp +2"]) := rfl
  obtain ⟨ctx, hformat, hrun, hexit⟩ := run_typedAtHome hargs (by decide +kernel)
  have hreached : atMilestone (milestoneSelected.runCommand "!stamp +2").2 = true := by
    decide +kernel
  have hprints := prints_runWords hformat selectFor_milestoneDesktop ["!stamp +2"]
  refine ⟨hargs, hexit, ?_⟩
  rw [hrun] at hexit ⊢
  exact (prints_ofReply hprints _ hexit).2 hreached

end Terminal

end Gradebook
