import Gradebook.Proofs.Command.Image
import Gradebook.Proofs.Terminal.Sittings

/-!
# What a console can ask for

The lines of a console ask for commands, one after another, and the console does to the ledgers
what these commands do.  They are any commands that can be typed, in any order, and no others.
-/

namespace Gradebook

namespace Desk

variable {κ : Type} [IdClock κ]

/-- The desk after commands for a student, in order; one that is refused leaves it as it is. -/
def obey (d : Desk κ) (student : Option StudentId) (cs : List Command) : Desk κ :=
  cs.foldl (fun d c =>
    match d.execute student c with
    | .error _ => d
    | .ok (_, next) => next) d

theorem obey_cons {d next : Desk κ} {student : Option StudentId} {c : Command} {o : Outcome}
    (h : d.execute student c = .ok (o, next)) (cs : List Command) :
    d.obey student (c :: cs) = next.obey student cs := by
  simp only [obey, List.foldl_cons, h]

theorem obey_append (d : Desk κ) (student : Option StudentId) (cs more : List Command) :
    d.obey student (cs ++ more) = (d.obey student cs).obey student more :=
  List.foldl_append

theorem obey_refused {d : Desk κ} {student : Option StudentId} {r : Refusal}
    (h : d.target student = .error r) (cs : List Command) : d.obey student cs = d := by
  induction cs with
  | nil => rfl
  | cons c cs ih =>
    have hrefused : d.execute student c = .error r := by simp only [execute, h]
    simpa only [obey, List.foldl_cons, hrefused] using ih

theorem obey_withTally (d : Desk κ) (t : Tally) (student : Option StudentId) (cs : List Command) :
    ∃ u, (d.withTally t).obey student cs = (d.obey student cs).withTally u := by
  induction cs generalizing d t with
  | nil => exact ⟨t, rfl⟩
  | cons c cs ih =>
    have htarget : (d.withTally t).target student = d.target student := rfl
    cases hstudent : d.target student with
    | error r =>
      rw [obey_refused hstudent, obey_refused (htarget.trans hstudent)]
      exact ⟨t, rfl⟩
    | ok id =>
      have hown : d.execute student c =
          .ok (c.outcome, (c.actions.foldl (·.apply id) d).count (.applied c.kind)) := by
        simp only [execute, hstudent]
      have hother : (d.withTally t).execute student c = .ok (c.outcome,
          ((c.actions.foldl (·.apply id) d).withTally t).count (.applied c.kind)) := by
        simp only [execute, htarget, hstudent, foldl_apply_withTally]
      rw [obey_cons hown, obey_cons hother]
      exact ih ((c.actions.foldl (·.apply id) d).count _) (t.count (.applied c.kind))

/-- A typed line does what the command does that it asks for, and nothing if it asks for none. -/
theorem run_eq_obey (d : Desk κ) (current : Option StudentId) (input : String) :
    ∃ u, (d.run current input).2 =
      (d.obey current (Command.parse input).toOption.toList).withTally u := by
  obtain ⟨hcurrent, hrun⟩ | ⟨id, hcurrent, hunknown, hrun⟩ | ⟨id, e, -, -, hparse, hrun⟩ |
    ⟨id, c, -, -, hparse, hexecute, -⟩ := d.run_spec current input
  · have htarget : d.target current = .error .noStudentSelected := by
      rw [hcurrent]
      rfl
    rw [hrun, obey_refused htarget]
    exact ⟨_, rfl⟩
  · rw [← Roster.has_iff, Bool.not_eq_true] at hunknown
    have htarget : d.target current = .error (.studentNotFound id) := by
      simp only [hcurrent, target, hunknown, Bool.false_eq_true, if_false]
    rw [hrun, obey_refused htarget]
    exact ⟨_, rfl⟩
  · rw [hrun, hparse]
    exact ⟨_, rfl⟩
  · have hone : d.obey current [c] = (d.run current input).2 := obey_cons hexecute []
    refine ⟨(d.run current input).2.tally, ?_⟩
    rw [hparse, ← hone]
    rfl

end Desk

namespace Terminal

variable {κ : Type} [IdClock κ]

/-- The commands that the lines of a console ask for, in order. -/
def askedBy (inputs : List String) : List Command :=
  (carriedLines inputs).filterMap fun input => (Command.parse input).toOption

/-- Memory as commands for the selected student leave it. -/
def obeyed (w : Desktop κ) (cs : List Command) : Memory κ :=
  ⟨(w.desk.obey w.current cs).ledgers, (w.desk.obey w.current cs).clock, w.current⟩

omit [IdClock κ] in
theorem desk_of_memory {w v : Desktop κ} (h : w.memory = v.memory) :
    w.desk = v.desk.withTally w.desk.tally ∧ w.current = v.current := by
  obtain ⟨⟨_, _, _⟩, _, _⟩ := w
  cases h
  exact ⟨rfl, rfl⟩

theorem obeyed_of_memory {w v : Desktop κ} (h : w.memory = v.memory) (cs : List Command) :
    obeyed w cs = obeyed v cs := by
  obtain ⟨hdesk, hcurrent⟩ := desk_of_memory h
  obtain ⟨u, hu⟩ := v.desk.obey_withTally w.desk.tally v.current cs
  rw [obeyed, hdesk, hcurrent, hu]
  rfl

theorem obeyed_after (l : Typed κ) (cs : List Command) :
    obeyed l.after cs = obeyed l.before ((Command.parse l.input).toOption.toList ++ cs) := by
  have hparse : Command.parse l.line = Command.parse l.input :=
    Command.parse_eq_of_words_eq (Text.words_trim l.input)
  let own := l.before.desk.obey l.before.current (Command.parse l.input).toOption.toList
  have hmemory : l.after.memory = Workbook.memory { l.before with desk := own } := by
    obtain ⟨t, hrun⟩ := l.before.desk.run_eq_obey l.before.current l.line
    rw [Typed.after, Workbook.memory_runCommand, hrun, hparse]
    rfl
  rw [obeyed_of_memory hmemory, obeyed, obeyed, Desk.obey_append]

theorem memory_afterLines (w : Desktop κ) (inputs : List String) :
    (afterLines w inputs).memory =
      obeyed w (inputs.filterMap fun input => (Command.parse input).toOption) := by
  induction inputs generalizing w with
  | nil => rfl
  | cons input rest ih =>
    have hstep := obeyed_after ⟨input, w⟩
      (rest.filterMap fun input => (Command.parse input).toOption)
    rw [afterLines, List.foldl_cons]
    refine (ih _).trans (hstep.trans ?_)
    rw [List.filterMap_cons]
    cases (Command.parse input).toOption <;> rfl

theorem canBeTyped_of_asked {inputs : List String} :
    ∀ c ∈ askedBy inputs, c.CanBeTyped := by
  intro c hc
  obtain ⟨input, -, hsome⟩ := List.mem_filterMap.1 hc
  cases hparse : Command.parse input with
  | error e =>
    rw [hparse] at hsome
    cases hsome
  | ok other =>
    rw [hparse] at hsome
    cases hsome
    exact Command.canBeTyped_of_parse hparse

theorem parse_leaving :
    ∀ line ∈ leavingLines, Command.parse line = .error (.tooFewWords line) := by
  decide +kernel

/-- A console carries all lines out that ask for a command. -/
theorem carriedLines_eq {inputs : List String}
    (h : ∀ input ∈ inputs, ∃ c, Command.parse input = .ok c) : carriedLines inputs = inputs := by
  induction inputs with
  | nil => rfl
  | cons input rest ih =>
    obtain ⟨⟨c, hc⟩, hrest⟩ := List.forall_mem_cons.1 h
    have hparse : Command.parse (Text.trim input) = .ok c := by
      rw [Command.parse_eq_of_words_eq (Text.words_trim input), hc]
    have hblank : Text.trim input ≠ "" := by
      intro hempty
      rw [hempty] at hparse
      cases hparse
    have hleaving : leavingLines.contains (Text.trim input) ≠ true := by
      intro hmem
      rw [parse_leaving _ (List.contains_iff_mem.1 hmem)] at hparse
      cases hparse
    rw [carriedLines, if_neg hblank, if_neg hleaving, ih hrest]

/-- An input whose lines ask for the commands. -/
def inputFor (cs : List Command) : String :=
  "\n".intercalate (cs.map Command.line)

theorem inputLines_inputFor {cs : List Command} (h : ∀ c ∈ cs, c.CanBeTyped) :
    inputLines (inputFor cs) = cs.map Command.line := by
  have hbreak : "\n".toList = ['\n'] := rfl
  rw [inputLines_eq, inputFor, String.toList_intercalate, hbreak]
  cases cs with
  | nil => rfl
  | cons c cs =>
    have hapart : ∀ l ∈ ((c :: cs).map Command.line).map String.toList, '\n' ∉ l := by
      rw [List.map_map, List.forall_mem_map]
      intro d hd hmem
      have hspace := (Command.isSpaced_line (h d hd)).spaces '\n' hmem (by decide)
      revert hspace
      decide
    have hlast : ((c :: cs).map Command.line).getLast? ≠ some "" := by
      intro hempty
      obtain ⟨d, hd, hline⟩ := List.mem_map.1 (List.mem_of_getLast? hempty)
      exact (Command.isSpaced_line (h d hd)).nonempty (by rw [hline]; rfl)
    rw [List.splitOn_intercalate '\n' hapart (List.cons_ne_nil _ _), Text.map_ofList_toList]
    exact if_neg hlast

theorem askedBy_inputFor {cs : List Command} (h : ∀ c ∈ cs, c.CanBeTyped) :
    askedBy (inputLines (inputFor cs)) = cs := by
  have hcarried : carriedLines (cs.map Command.line) = cs.map Command.line := by
    apply carriedLines_eq
    rw [List.forall_mem_map]
    exact fun c hc => ⟨c, Command.parse_line (h c hc)⟩
  have hasked : ∀ c ∈ cs, (Command.parse c.line).toOption = some c := by
    intro c hc
    rw [Command.parse_line (h c hc)]
    rfl
  rw [inputLines_inputFor h, askedBy, hcarried, List.filterMap_map]
  exact (List.filterMap_congr hasked).trans List.filterMap_some

/-- A text asks for a command just where the command can be typed.  The commands that a console can
be asked for are just these, in any order, and to memory it does what they do. -/
theorem console_obeys_what_can_be_typed {κ : Type} [IdClock κ] (ctx : Context) (w : Desktop κ) :
    (∀ c : Command, (∃ input, Command.parse input = .ok c) ↔ c.CanBeTyped) ∧
      (∀ cs : List Command,
        (∃ input, askedBy (inputLines input) = cs) ↔ ∀ c ∈ cs, c.CanBeTyped) ∧
      ∀ input, (consoleRun ctx w (inputLines input)).2.memory =
        obeyed w (askedBy (inputLines input)) := by
  refine ⟨Command.exists_parse_iff, ?_, ?_⟩
  · intro cs
    constructor
    · rintro ⟨input, rfl⟩
      exact canBeTyped_of_asked
    · intro h
      exact ⟨inputFor cs, askedBy_inputFor h⟩
  · intro input
    rw [(consoleRun_eq_typed ctx w _).2, memory_afterLines]
    rfl

end Terminal

end Gradebook
