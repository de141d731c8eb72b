import Gradebook.Proofs.Workbook.Dealing
import Gradebook.Proofs.Workbook.Identity

/-!
# A student alone

From a run the dealings with one student are kept and carried out alone, in a workbook of their own.
There the student goes by another identity and records by other identities and times.  The two runs
keep in step: while the operations deal with the student both take a step that replies the same, and
while they do not only the first one moves, leaving the student's portrait.
-/

namespace Gradebook

/-- The identity of the item at a place in a student's homework. -/
def Ledgers.homeworkAt (l : Ledgers) (id : StudentId) (place : Nat) : RecordId :=
  match (l.roster.get? id).bind (·.homework[place]?) with
  | some item => item.id
  | none => ""

def Dealing.operation (l : Ledgers) (id : StudentId) : Dealing → Operation
  | .add name => .addStudent name
  | .select => .select id
  | .command input => .runCommand input
  | .complete place => .completeHomework id (l.homeworkAt id place)
  | .reset => .resetStamps id

/-- What a dealing needs of a portrait suffices for its operation to be that dealing, where the
student is selected for commands, a student who is missing would be given the identity, and items of
homework are told apart by theirs. -/
theorem Desk.isDealing_operation {κ : Type} [IdClock κ] {d : Desk κ} {current : Option StudentId}
    {id : StudentId} {q : Dealing} {reply : Reply} {next : Portrait}
    (h : (d.ledgers.portrait id).Deals q reply next)
    (hcommand : ∀ input, q = .command input → current = some id)
    (hnew : (d.ledgers.portrait id).student = none → (IdClock.newId d.clock "student").1 = id)
    (hhomework : ∀ s ∈ d.ledgers.roster, s.homeworkIds.Nodup) :
    d.IsDealing current id (q.operation d.ledgers id) q := by
  cases h with
  | added hname hstudent =>
    have hmissing : d.ledgers.roster.has id = false := by
      rw [← Ledgers.student_portrait, hstudent]
      rfl
    exact .add hname (hnew hstudent) hmissing
  | selected hs =>
    obtain ⟨s, hget, -⟩ := Option.map_eq_some_iff.1 hs
    exact .select hget
  | rejected hs hparse => exact .command (hcommand _ rfl)
  | carriedOut hs hparse => exact .command (hcommand _ rfl)
  | @completed _ place hs hplace =>
    obtain ⟨s, hget, rfl⟩ := Option.map_eq_some_iff.1 hs
    rw [Student.sketch, List.length_map] at hplace
    have hitem : s.homework[place]? = some s.homework[place] := List.getElem?_eq_getElem hplace
    have hid : d.ledgers.homeworkAt id place = s.homework[place].id := by
      rw [Ledgers.homeworkAt, hget, Option.bind_some, hitem]
    have hfound := findIdx?_key (hhomework s (Roster.get?_some hget).1) hitem
    rw [Dealing.operation, hid]
    exact .complete hget hfound
  | reset hs =>
    rw [Ledgers.student_portrait] at hs
    exact .reset hs

namespace Workbook

variable {σ τ κ μ : Type} [CollectionStore σ] [CollectionStore τ] [IdClock κ] [IdClock μ]

/-- The dealings with a student in a run, with the answers given. -/
def dealings (w : Workbook σ κ) (id : StudentId) : List Operation → List (Dealing × Answer)
  | [] => []
  | o :: rest =>
    match w.desk.dealing? w.current id o with
    | some q => (q, (w.perform o).1) :: (w.perform o).2.dealings id rest
    | none => (w.perform o).2.dealings id rest

/-- The operations that are dealings with a student, one after the other. -/
def replay (w : Workbook σ κ) (id : StudentId) : List Dealing → List Operation
  | [] => []
  | q :: rest =>
    let o := q.operation w.ledgers id
    o :: (w.perform o).2.replay id rest

/-- No identity is drawn twice in the run. -/
def DrawsEachOnce (w : Workbook σ κ) (ops : List Operation) : Prop :=
  (IdClock.ids w.desk.clock (w.draws ops)).Nodup

instance (w : Workbook σ κ) (ops : List Operation) : Decidable (w.DrawsEachOnce ops) :=
  inferInstanceAs (Decidable (List.Nodup _))

/-- The second workbook tells of a student what the first one does, under another identity. -/
structure Shadows (w : Workbook σ κ) (id : StudentId) (v : Workbook τ μ) (other : StudentId) :
    Prop where
  portrait : v.desk.ledgers.portrait other = w.desk.ledgers.portrait id
  selected : w.current = some id → v.current = some other
  fresh : (w.desk.ledgers.portrait id).student = none →
    (IdClock.newId v.desk.clock "student").1 = other
  listed : w.SelectsStudent ∧ v.SelectsStudent

variable {w : Workbook σ κ} {id : StudentId} {v : Workbook τ μ} {other : StudentId}

omit [CollectionStore σ] [CollectionStore τ] [IdClock κ] in
theorem Shadows.opened (store : σ) (clock : κ) (tally : Tally) (apart : τ) (watch : μ)
    (count : Tally) (id : StudentId) :
    Shadows ⟨⟨.empty, clock, tally⟩, store, none⟩ id ⟨⟨.empty, watch, count⟩, apart, none⟩
      (IdClock.newId watch "student").1 := by
  refine ⟨rfl, ?_, ?_, ?_, ?_⟩
  · intro hcurrent
    cases hcurrent
  · intro _
    rfl
  · intro selected hcurrent
    cases hcurrent
  · intro selected hcurrent
    cases hcurrent

omit [CollectionStore τ] in
/-- An operation that does not deal with the student is passed over. -/
theorem Shadows.pass (h : w.Shadows id v other) {o : Operation}
    (hnone : ∀ q, ¬ w.desk.IsDealing w.current id o q) : (w.perform o).2.Shadows id v other := by
  have hportrait : (w.perform o).2.desk.ledgers.portrait id = w.desk.ledgers.portrait id := by
    rw [ledgers_perform]
    exact (w.desk.effect_change w.current o).portrait hnone
  refine ⟨?_, ?_, ?_, h.listed.1.perform o, h.listed.2⟩
  · rw [hportrait]
    exact h.portrait
  · intro hcurrent
    rw [current_perform] at hcurrent
    exact h.selected (Desk.current_of_not_isDealing hnone hcurrent)
  · rw [hportrait]
    exact h.fresh

/-- A dealing with the student is a dealing in both runs, and both reply the same. -/
theorem Shadows.step (h : w.Shadows id v other) {o : Operation} {q : Dealing}
    (hq : w.desk.IsDealing w.current id o q)
    (hhomework : ∀ s ∈ v.desk.ledgers.roster, s.homeworkIds.Nodup) :
    (v.perform (q.operation v.ledgers other)).1.reply = (w.perform o).1.reply ∧
      (w.perform o).2.Shadows id (v.perform (q.operation v.ledgers other)).2 other := by
  have hdeals := hq.deals (h.listed.1 id)
  have hcommand : ∀ input, q = .command input → v.current = some other := by
    rintro input rfl
    cases hq with
    | command hcurrent => exact h.selected hcurrent
  have hfresh : (v.desk.ledgers.portrait other).student = none →
      (IdClock.newId v.desk.clock "student").1 = other := by
    rw [h.portrait]
    exact h.fresh
  have hshadow : v.desk.IsDealing v.current other (q.operation v.ledgers other) q :=
    Desk.isDealing_operation (h.portrait ▸ hdeals) hcommand hfresh hhomework
  have hboth := hshadow.deals (h.listed.2 other)
  rw [h.portrait] at hboth
  obtain ⟨hreply, hportrait⟩ := hboth.unique hdeals
  refine ⟨?_, ?_, ?_, ?_, h.listed.1.perform o, h.listed.2.perform _⟩
  · rw [perform_eq, perform_eq]
    exact hreply
  · rw [ledgers_perform, ledgers_perform]
    exact hportrait
  · intro hcurrent
    rw [current_perform, hq.current_effect] at hcurrent
    rw [current_perform, hshadow.current_effect]
    cases q with
    | select => rfl
    | add | command | complete | reset => exact h.selected hcurrent
  · intro hmissing
    have hstudent := hdeals.isSome_student
    rw [← ledgers_perform, hmissing] at hstudent
    cases hstudent

/-- Through a run the replies to the dealings are those that they get alone, and at its end the
student looks the same in both workbooks. -/
theorem Shadows.run (ops : List Operation) {w : Workbook σ κ} {v : Workbook τ μ}
    {names : List String} (h : w.Shadows id v other) (hnamed : v.desk.ledgers.Named names)
    (hdistinct : (names ++ IdClock.ids v.desk.clock
      (v.draws (v.replay other ((w.dealings id ops).map Prod.fst)))).Nodup) :
    (v.run (v.replay other ((w.dealings id ops).map Prod.fst))).1.map Answer.reply =
        (w.dealings id ops).map (fun kept => kept.2.reply) ∧
      (v.after (v.replay other ((w.dealings id ops).map Prod.fst))).desk.ledgers.portrait other =
        (w.after ops).desk.ledgers.portrait id := by
  induction ops generalizing w v names with
  | nil => exact ⟨rfl, h.portrait⟩
  | cons o ops ih =>
    cases hdealing : w.desk.dealing? w.current id o with
    | none =>
      simp only [dealings, hdealing] at hdistinct ⊢
      exact ih (h.pass (Desk.not_isDealing_of_dealing? hdealing)) hnamed hdistinct
    | some q =>
      have hnames : names.Nodup := (List.sublist_append_left _ _).nodup hdistinct
      have hhomework : ∀ s ∈ v.desk.ledgers.roster, s.homeworkIds.Nodup :=
        fun s hs => hnamed.nodup_homeworkIds hnames hs
      obtain ⟨hreply, hnext⟩ := h.step (Desk.isDealing_of_dealing? hdealing) hhomework
      simp only [dealings, hdealing, List.map_cons, replay, draws] at hdistinct ⊢
      -- the names after the step are those before it and those that it draws
      rw [IdClock.ids_append, ← List.append_assoc, ← clock_perform] at hdistinct
      obtain ⟨hreplies, hportrait⟩ := ih hnext (named_perform hnamed _) hdistinct
      rw [run_cons, List.map_cons, hreply, hreplies]
      exact ⟨rfl, hportrait⟩

end Workbook

/-- Over empty stores, take a run that draws no identity twice and a student added in it, and carry
out alone what dealt with the student.  If that draws no identity twice either, it is answered the
same but for identities and times, and it leaves a student who is the same but for them, with the
same awards. -/
theorem students_do_not_interfere {σ τ κ μ : Type} [CollectionStore σ] [CollectionStore τ]
    [IdClock κ] [IdClock μ] {store : σ} {apart : τ}
    (hstore : ∀ c, CollectionStore.load store c = .ok [])
    (hapart : ∀ c, CollectionStore.load apart c = .ok []) (clock : κ) (watch : μ)
    (tally count : Tally) :
    ∃ w v, Workbook.open store clock tally = .ok w ∧ Workbook.open apart watch count = .ok v ∧
      ∀ ops, w.DrawsEachOnce ops → ∀ s ∈ (w.after ops).roster,
        let other := (IdClock.newId watch "student").1
        let alone := v.replay other ((w.dealings s.id ops).map Prod.fst)
        v.DrawsEachOnce alone →
          (v.run alone).1.map Answer.reply =
              (w.dealings s.id ops).map (fun kept => kept.2.reply) ∧
            ∃ t, (v.after alone).roster.get? other = some t ∧ t.sketch = s.sketch ∧
              ((v.after alone).ledgers.rewardsOf other).map RewardEntry.award =
                ((w.after ops).ledgers.rewardsOf s.id).map RewardEntry.award := by
  obtain ⟨counted, hopen⟩ := Workbook.open_empty hstore clock tally
  obtain ⟨countedApart, hopenApart⟩ := Workbook.open_empty hapart watch count
  refine ⟨_, _, hopen, hopenApart, ?_⟩
  intro ops hdraws s hs other alone halone
  have hshadows := Workbook.Shadows.opened store clock counted apart watch countedApart s.id
  obtain ⟨hreplies, hportrait⟩ := hshadows.run ops .empty halone
  refine ⟨hreplies, ?_⟩
  -- the student is the only one with the identity
  have hnamed := Workbook.named_after ops (w := ⟨⟨.empty, clock, counted⟩, store, none⟩) .empty
  have hget := (Ledgers.identified hnamed hdraws).found s hs
  have hstudent := congrArg Portrait.student hportrait
  rw [Ledgers.student_portrait_of_get? hget] at hstudent
  obtain ⟨t, ht, hsketch⟩ := Option.map_eq_some_iff.1 hstudent
  exact ⟨t, ht, hsketch, congrArg Portrait.awards hportrait⟩

theorem students_do_not_interfere_with_second :
    let w : Workbook MemoryStore SequentialClock := ⟨⟨.empty, .new .epoch 0, .empty⟩, .empty, none⟩
    let ops : List Operation :=
      [.addStudent "Kim", .addStudent "Lee", .select "student-2", .runCommand "!homework algebra",
        .select "student-1", .runCommand "!stamp +3", .completeHomework "student-2" "homework-3",
        .resetStamps "student-1", .select "student-2", .runCommand "algebra 12 X"]
    let alone : List Operation :=
      [.addStudent "Lee", .select "student-1", .runCommand "!homework algebra",
        .completeHomework "student-1" "homework-2", .select "student-1", .runCommand "algebra 12 X"]
    w.DrawsEachOnce ops ∧ w.DrawsEachOnce alone ∧
      w.replay "student-1" ((w.dealings "student-2" ops).map Prod.fst) = alone ∧
      ∃ s t, (w.after ops).roster.get? "student-2" = some s ∧
        (w.after alone).roster.get? "student-1" = some t ∧ t.sketch = s.sketch := by
  intro w ops alone
  have hempty : ∀ c, CollectionStore.load MemoryStore.empty c = .ok [] := fun c => rfl
  have hops : w.DrawsEachOnce ops := by decide
  have halone : w.DrawsEachOnce alone := by decide
  have hreplay : w.replay "student-1" ((w.dealings "student-2" ops).map Prod.fst) = alone := by
    decide
  obtain ⟨v, u, hv, hu, hinterfere⟩ := students_do_not_interfere hempty hempty
    (SequentialClock.new .epoch 0) (SequentialClock.new .epoch 0) .empty .empty
  cases hv
  cases hu
  have hthere : (w.after ops).roster.has "student-2" = true := by decide
  obtain ⟨s, hs⟩ := Option.isSome_iff_exists.1 hthere
  obtain ⟨hmem, hid⟩ := Roster.get?_some hs
  have hsecond := hinterfere ops hops s hmem
  rw [hid] at hsecond
  obtain ⟨-, t, ht, hsketch, -⟩ := hsecond (hreplay ▸ halone)
  exact ⟨hops, halone, hreplay, s, t, hs, ht, hsketch⟩

end Gradebook
