import Gradebook.Proofs.Ledger.Stamps
import Gradebook.Proofs.Workbook.Effect

/-!
# What a command does

The whole effect of a command: the record of one student is replaced, entries are appended to the
two logs, and besides them only the clock and one counter move.
-/

namespace Gradebook

open Time (Instant)

variable {κ : Type} [IdClock κ]

theorem nodup_touch {listed : List Collection} (h : listed.Nodup) (more : List Collection) :
    (touch listed more).Nodup := by
  unfold touch
  induction more generalizing listed with
  | nil => exact h
  | cons c more ih =>
    rw [List.foldl_cons]
    apply ih
    by_cases hc : c ∈ listed
    · rw [if_pos hc]
      exact h
    · rw [if_neg hc]
      refine List.nodup_append.2 ⟨h, List.pairwise_singleton _ c, ?_⟩
      intro a ha b hb
      cases List.mem_singleton.1 hb
      exact ne_of_mem_of_not_mem ha hc

/-- Identity and instant of a record that is made from a clock. -/
def IdClock.IsStamp (k : κ) (family : String) (id : RecordId) (time : Instant) : Prop :=
  id = (newId k family).1 ∧ time = (now (newId k family).2).1

/-- What a command does for a student: the record in the place of the student's, what is appended to
the grades and to the rewards, and the collections that it is said to change. -/
inductive Command.Does (k : κ) (s : Student) :
    Command → Student → List LogEntry → List RewardEntry → List Collection → Prop
  | graded {unit question : String} {status : Status} {e : LogEntry} {id : RecordId}
      {time : Instant} (hstamp : IdClock.IsStamp k "log" id time)
      (hentry : e = ⟨id, s.id, unit, question, status, time⟩) :
    Does k s (.recordGrade unit question status) { s with logs := s.logs ++ [e] } [e] []
      [.students, .grades]
  | assigned {unit range : String} {id : RecordId} {time : Instant}
      (hstamp : IdClock.IsStamp k "homework" id time) :
    Does k s (.assignHomework unit range)
      { s with homework := s.homework ++ [⟨id, unit, range, time, false⟩] } [] [] [.students]
  | awarded {n balance : Count} {id : RecordId} {time : Instant}
      (hbalance : balance.val = min (s.stamps.val + n.val) maxCount)
      (hstamp : IdClock.IsStamp k "stamp" id time) :
    Does k s (.addStamps n) { s with stamps := balance } []
      [⟨id, s.id, .stamp, n, some "stamp", time⟩] [.students, .rewards]
  | removed {n balance : Count}
      (hbalance : (balance.val : Int) = max ((s.stamps.val : Int) - n.val) 0) :
    Does k s (.removeStamps n) { s with stamps := balance } [] [] [.students]
  -- the reward is made after the homework, from the clock that this leaves
  | penalized {n : Count} {homework reward : RecordId} {assigned given : Instant}
      (hhomework : IdClock.IsStamp k "homework" homework assigned)
      (hreward : IdClock.IsStamp (IdClock.after k [.id "homework", .time]) "penalty" reward given) :
    Does k s (.penalty n)
      { s with
        homework := s.homework ++ [⟨homework, "penalty", s!"{n.val} sheets", assigned, false⟩] }
      [] [⟨reward, s.id, .penalty, n, some "penalty", given⟩] [.students, .rewards]
  | ignored : Does k s .ignored s [] [] []

namespace Desk

/-- The steps of a command on the student who is found do what the command does, and nothing else to
the ledgers. -/
theorem does_actions {d : Desk κ} {student : StudentId} {s : Student}
    (hs : d.ledgers.roster.get? student = some s) (c : Command) :
    ∃ t roster grades rewards, c.Does d.clock s t grades rewards c.touches ∧
      d.ledgers.roster.Replaces student s t roster ∧
      (c.actions.foldl (·.apply student) d).ledgers =
        ⟨roster, d.ledgers.grades ++ grades, d.ledgers.rewards ++ rewards⟩ := by
  have hid := (Roster.get?_some hs).2
  subst hid
  cases c with
  | recordGrade unit question status =>
    refine ⟨_, _, _, [], .graded ⟨rfl, rfl⟩ rfl, Roster.replaces_appendLog hs _, ?_⟩
    rw [List.append_nil]
    rfl
  | assignHomework unit range =>
    refine ⟨_, _, [], [], .assigned ⟨rfl, rfl⟩, Roster.replaces_appendHomework hs _, ?_⟩
    rw [List.append_nil, List.append_nil]
    rfl
  | addStamps n =>
    have hsum := s.stamps.val_adjust n.val
    have hbalance : (s.stamps.adjust n.val).val = min (s.stamps.val + n.val) maxCount := by
      omega
    refine ⟨_, _, [], _, .awarded hbalance ⟨rfl, rfl⟩, Roster.replaces_adjustStamps hs _, ?_⟩
    rw [List.append_nil]
    rfl
  | removeStamps n =>
    have hsum := s.stamps.val_adjust (-n.val)
    have hmax := s.stamps.le_max
    have hbalance : ((s.stamps.adjust (-n.val)).val : Int) =
        max ((s.stamps.val : Int) - n.val) 0 := by
      omega
    refine ⟨_, _, [], [], .removed hbalance, Roster.replaces_adjustStamps hs _, ?_⟩
    rw [List.append_nil, List.append_nil]
    rfl
  | penalty n =>
    refine ⟨_, _, [], _, .penalized ⟨rfl, rfl⟩ ⟨rfl, rfl⟩, Roster.replaces_appendHomework hs _, ?_⟩
    rw [List.append_nil]
    rfl
  | ignored =>
    refine ⟨_, _, [], [], .ignored, Roster.replaces_self hs, ?_⟩
    rw [List.append_nil, List.append_nil]
    rfl

theorem roster_of_adjustStamps {c : Command} {delta : Int} (h : .adjustStamps delta ∈ c.actions)
    (d : Desk κ) (student : StudentId) :
    (c.actions.foldl (·.apply student) d).ledgers.roster =
      d.ledgers.roster.adjustStamps student delta := by
  obtain ⟨n, rfl, rfl⟩ | ⟨n, rfl, rfl⟩ := Command.adjustments h
  · rfl
  · rfl

end Desk

/-- A command for a student on the roster does to the first such student what it is to do, and
changes no other record; it moves the clock by its draws and counts itself.  The collections that it
is said to change are listed once each, and one that is not listed is unchanged.  No change of a
balance that it makes overflows. -/
theorem commands_have_exact_effects (d : Desk κ) {student : StudentId}
    (hstudent : student ∈ Roster.ids d.ledgers.roster) (c : Command) :
    ∃ s t roster grades rewards touched next,
      d.execute (some student) c = .ok (⟨c.message, c.tone, touched⟩, next) ∧
        c.Does d.clock s t grades rewards touched ∧
        d.ledgers.roster.Replaces student s t roster ∧
        next.ledgers = ⟨roster, d.ledgers.grades ++ grades, d.ledgers.rewards ++ rewards⟩ ∧
        next.clock = IdClock.after d.clock (c.actions.flatMap Action.draws) ∧
        next.tally = d.tally.count (.applied c.kind) ∧
        touched.Nodup ∧
        (∀ collection, collection ∉ touched →
          Workbook.recordsOf next.ledgers collection = Workbook.recordsOf d.ledgers collection) ∧
        ∀ delta, .adjustStamps delta ∈ c.actions →
          d.ledgers.roster.adjustStampsByWord student delta = .ok roster := by
  obtain ⟨s, hs⟩ := Option.isSome_iff_exists.1 ((Roster.has_iff _ student).2 hstudent)
  obtain ⟨t, roster, grades, rewards, hdoes, hreplaces, hledgers⟩ := Desk.does_actions hs c
  refine ⟨s, t, roster, grades, rewards, c.touches, _, Desk.execute_known hstudent c, hdoes,
    hreplaces, hledgers, Desk.clock_foldl_apply student c.actions d, ?_,
    nodup_touch List.nodup_nil _, ?_, ?_⟩
  · exact congrArg (·.count (.applied c.kind)) (Desk.tally_foldl_apply student c.actions d)
  · intro collection hlisted
    apply Desk.foldl_apply_unsaved student d
    intro a ha htouches
    exact hlisted (c.mem_touches ha htouches)
  · intro delta hdelta
    rw [Roster.adjustStampsByWord_of_mem_actions hdelta, ← Desk.roster_of_adjustStamps hdelta,
      hledgers]

theorem award_past_greatest_count_has_exact_effects :
    let kim : Student := { Student.new "kim" "Kim" with stamps := ⟨4294967294, by decide⟩ }
    let second : Student := { kim with name := "Kim the second" }
    let d : Desk SequentialClock :=
      ⟨⟨[.new "lee" "Lee", kim, second], [], []⟩, .new .epoch 0, .empty⟩
    "kim" ∈ Roster.ids d.ledgers.roster ∧
      ∃ t next, d.execute (some "kim") (.addStamps ⟨3, by decide⟩) =
          .ok (⟨"Added 3 stamps", .success, [.students, .rewards]⟩, next) ∧
        d.ledgers.roster.Replaces "kim" kim t next.ledgers.roster ∧ t.stamps.val = 4294967295 ∧
        next.ledgers.rewards.map (·.value.val) = [3] := by
  intro kim second d
  have hkim : "kim" ∈ Roster.ids d.ledgers.roster := by decide
  obtain ⟨s, t, roster, grades, rewards, touched, next, hexecute, hdoes, hreplaces, hledgers, -⟩ :=
    commands_have_exact_effects d hkim (.addStamps ⟨3, by decide⟩)
  have hs : s = kim := Option.some.inj hreplaces.found.symm
  subst hs
  refine ⟨hkim, t, next, ?_, ?_, ?_, ?_⟩
  · cases hdoes
    exact hexecute
  · rw [hledgers]
    exact hreplaces
  · cases hdoes with
    | awarded hbalance hstamp => exact hbalance
  · rw [hledgers]
    cases hdoes
    rfl

end Gradebook
