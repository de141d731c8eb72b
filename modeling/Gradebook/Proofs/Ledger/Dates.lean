import Gradebook.Proofs.Clock.Readings
import Gradebook.Proofs.Ledger.Identity
import Gradebook.Workbook

/-!
# Dates of records

Every record is dated with the reading that is drawn for it and goes to the end of its lists.  So
along each list the dates are readings of the clock in the order in which they were drawn, and where
that is the order of time the views that sort by time read their lists from the end.
-/

namespace Gradebook

open Time (Instant)

theorem dates_append {α : Type} {date : α → Instant} {records : List α} {times : List Instant}
    (h : (records.map date).Sublist times) (x : α) :
    ((records ++ [x]).map date).Sublist (times ++ [date x]) := by
  rw [List.map_append]
  exact h.append (List.Sublist.refl _)

/-- A student whose log and homework are each dated by some of the times, in their order. -/
structure Student.DatedBy (times : List Instant) (s : Student) : Prop where
  logs : (s.logs.map (·.timestamp)).Sublist times
  homework : (s.homework.map (·.assignedAt)).Sublist times

namespace Student.DatedBy

variable {times : List Instant} {s : Student}

theorem new (id : StudentId) (name : String) : (Student.new id name).DatedBy times where
  logs := List.nil_sublist _
  homework := List.nil_sublist _

theorem later (h : s.DatedBy times) (more : List Instant) : s.DatedBy (times ++ more) where
  logs := h.logs.trans (List.sublist_append_left _ _)
  homework := h.homework.trans (List.sublist_append_left _ _)

theorem log (h : s.DatedBy times) (e : LogEntry) :
    ({ s with logs := s.logs ++ [e] } : Student).DatedBy (times ++ [e.timestamp]) where
  logs := dates_append h.logs e
  homework := (h.later _).homework

theorem assign (h : s.DatedBy times) (item : Homework) :
    ({ s with homework := s.homework ++ [item] } : Student).DatedBy
      (times ++ [item.assignedAt]) where
  logs := (h.later _).logs
  homework := dates_append h.homework item

end Student.DatedBy

/-- Records whose dates are, list by list, some of the times in their order. -/
def Collection.DatedBy (times : List Instant) (c : Collection) (records : List c.Record) : Prop :=
  match c, records with
  | .students, roster => ∀ s : Student, s ∈ roster → s.DatedBy times
  | .grades, entries => (entries.map LogEntry.timestamp).Sublist times
  | .rewards, entries => (entries.map RewardEntry.timestamp).Sublist times

theorem Collection.datedBy_nil (times : List Instant) : (c : Collection) → c.DatedBy times []
  | .students => fun _ hs => absurd hs List.not_mem_nil
  | .grades => List.nil_sublist times
  | .rewards => List.nil_sublist times

theorem Collection.DatedBy.later {times : List Instant} (more : List Instant) :
    {c : Collection} → {records : List c.Record} → c.DatedBy times records →
      c.DatedBy (times ++ more) records
  | .students, _, h => fun s hs => (h s hs).later more
  | .grades, _, h => List.Sublist.trans h (List.sublist_append_left _ _)
  | .rewards, _, h => List.Sublist.trans h (List.sublist_append_left _ _)

theorem Roster.datedBy_update {times : List Instant} {r : Roster}
    (h : Collection.DatedBy times .students r) (id : StudentId) {change : Student → Student}
    {more : List Instant}
    (hchange : ∀ s : Student, s.DatedBy times → (change s).DatedBy (times ++ more)) :
    Collection.DatedBy (times ++ more) .students (r.update id change) := by
  intro s hs
  rcases mem_updateFirst hs with hs | ⟨t, ht, rfl⟩
  · exact (h s hs).later more
  · exact hchange t (h t ht)

/-- Ledgers whose lists are each dated by some of the times, in their order. -/
def Ledgers.DatedBy (times : List Instant) (l : Ledgers) : Prop :=
  ∀ c : Collection, c.DatedBy times (Workbook.recordsOf l c)

namespace Ledgers.DatedBy

variable {times : List Instant} {l : Ledgers}

theorem of_collections {roster : Roster} {grades : List LogEntry} {rewards : List RewardEntry}
    (hroster : Collection.DatedBy times .students roster)
    (hgrades : Collection.DatedBy times .grades grades)
    (hrewards : Collection.DatedBy times .rewards rewards) :
    Ledgers.DatedBy times ⟨roster, grades, rewards⟩
  | .students => hroster
  | .grades => hgrades
  | .rewards => hrewards

theorem later (h : l.DatedBy times) (more : List Instant) : l.DatedBy (times ++ more) :=
  fun c => (h c).later more

theorem add (h : l.DatedBy times) (id : StudentId) (name : String) :
    Ledgers.DatedBy times { l with roster := l.roster.add (.new id name) } := by
  refine of_collections ?_ (h .grades) (h .rewards)
  intro s hs
  rcases List.mem_append.1 hs with hs | hs
  · exact h .students s hs
  · rw [List.mem_singleton.1 hs]
    exact .new id name

theorem update (h : l.DatedBy times) (id : StudentId) {change : Student → Student}
    (hchange : ∀ s, (change s).logs = s.logs ∧
      (change s).homework.map (·.assignedAt) = s.homework.map (·.assignedAt)) :
    Ledgers.DatedBy times { l with roster := l.roster.update id change } := by
  refine of_collections ?_ (h .grades) (h .rewards)
  have hkeeps : ∀ s : Student, s.DatedBy times → (change s).DatedBy (times ++ []) := by
    intro s hs
    obtain ⟨hlogs, hhomework⟩ := hchange s
    rw [List.append_nil]
    exact ⟨hlogs ▸ hs.logs, hhomework ▸ hs.homework⟩
  have hroster := Roster.datedBy_update (h .students) id hkeeps
  rw [List.append_nil] at hroster
  exact hroster

end Ledgers.DatedBy

namespace Desk

variable {κ : Type} [IdClock κ] {times : List Instant}

theorem datedBy_apply {d : Desk κ} (h : d.ledgers.DatedBy times) (id : StudentId) (a : Action) :
    (d.apply id a).ledgers.DatedBy (times ++ IdClock.times d.clock a.draws) := by
  cases a with
  | recordGrade unit question status =>
    let e := (d.recordGrade id unit question status).1
    have hroster := Roster.datedBy_update (h .students) id fun s hs => hs.log e
    exact .of_collections hroster (dates_append (h .grades) e) ((h .rewards).later _)
  | assignHomework unit range =>
    let time := (IdClock.now (IdClock.newId d.clock "homework").2).1
    have hroster := Roster.datedBy_update (h .students) id fun s hs =>
      hs.assign ⟨(IdClock.newId d.clock "homework").1, unit, range, time, false⟩
    exact .of_collections hroster ((h .grades).later _) ((h .rewards).later _)
  | adjustStamps delta =>
    rw [Action.draws, IdClock.times, List.append_nil]
    exact h.update id fun s => ⟨rfl, rfl⟩
  | recordReward kind value =>
    have hrewards : (d.ledgers.rewards.map RewardEntry.timestamp).Sublist times := h .rewards
    exact .of_collections ((h .students).later _) ((h .grades).later _) (dates_append hrewards _)

theorem datedBy_foldl_apply (id : StudentId) (actions : List Action) {d : Desk κ}
    {times : List Instant} (h : d.ledgers.DatedBy times) :
    (actions.foldl (·.apply id) d).ledgers.DatedBy
      (times ++ IdClock.times d.clock (actions.flatMap Action.draws)) := by
  induction actions generalizing d times with
  | nil =>
    rw [List.flatMap_nil, IdClock.times, List.append_nil]
    exact h
  | cons a actions ih =>
    have hrest := ih (datedBy_apply h id a)
    rw [clock_apply, List.append_assoc, ← IdClock.times_append] at hrest
    exact hrest

end Desk

variable {α : Type} {time : α → Instant}

theorem newestFirst_of_inOrder {records : List α}
    (h : records.Pairwise fun a b => time a ≤ time b) :
    newestFirst time records = records.reverse := by
  apply List.mergeSort_of_pairwise
  rw [List.pairwise_reverse]
  apply h.imp
  intro a b hab
  have hbefore : (time b).before (time a) = false := hab
  rw [hbefore]
  rfl

theorem recent_of_inOrder {records : List α} (h : records.Pairwise fun a b => time a ≤ time b)
    (n : Nat) : recent time n records = (records.drop (records.length - n)).reverse := by
  rw [recent, newestFirst_of_inOrder h, List.take_reverse]

theorem latest?_of_inOrder {times : List Instant} (h : times.Pairwise (· ≤ ·)) :
    Ledgers.latest? times = times.getLast? := by
  cases times with
  | nil => rfl
  | cons t rest =>
    rw [Ledgers.latest?, List.getLast?_cons]
    apply congrArg some
    induction rest generalizing t with
    | nil => rfl
    | cons u rest ih =>
      obtain ⟨hle, hrest⟩ := List.pairwise_cons.1 h
      have hlater : t.later u = u := Instant.later_of_le (hle u List.mem_cons_self)
      rw [List.foldl_cons, hlater, ih u hrest, List.getLast?_cons]
      rfl

/-- Ledgers in which every list is in the order of time, so that the views that sort by time read
their lists from the end. -/
structure Ledgers.InTimeOrder (l : Ledgers) : Prop where
  grades : l.grades.Pairwise fun a b => a.timestamp ≤ b.timestamp
  logs : ∀ s ∈ l.roster, s.logs.Pairwise fun a b => a.timestamp ≤ b.timestamp
  homework : ∀ s ∈ l.roster, s.homework.Pairwise fun a b => a.assignedAt ≤ b.assignedAt
  rewards : l.rewards.Pairwise fun a b => a.timestamp ≤ b.timestamp
  recentGrades : ∀ n, l.recentGrades n = (l.grades.drop (l.grades.length - n)).reverse
  recentStamps : ∀ n,
    l.recentStamps n = (l.stampEntries.drop (l.stampEntries.length - n)).reverse
  lastStampAt : ∀ id, l.lastStampAt? id =
    (((l.rewardsOf id).filter (·.kind = .stamp)).getLast?).map (·.timestamp)

theorem Ledgers.DatedBy.inTimeOrder {l : Ledgers} {times : List Instant} (h : l.DatedBy times)
    (htimes : times.Pairwise (· ≤ ·)) : l.InTimeOrder := by
  have hgrades : l.grades.Pairwise fun a b => a.timestamp ≤ b.timestamp :=
    List.pairwise_map.1 (htimes.sublist (h .grades))
  have hrewards : l.rewards.Pairwise fun a b => a.timestamp ≤ b.timestamp :=
    List.pairwise_map.1 (htimes.sublist (h .rewards))
  refine ⟨hgrades, ?_, ?_, hrewards, ?_, ?_, ?_⟩
  · intro s hs
    exact List.pairwise_map.1 (htimes.sublist (h .students s hs).logs)
  · intro s hs
    exact List.pairwise_map.1 (htimes.sublist (h .students s hs).homework)
  · intro n
    exact recent_of_inOrder hgrades n
  · intro n
    exact recent_of_inOrder (hrewards.sublist List.filter_sublist) n
  · intro id
    have hstamps : ((l.rewardsOf id).filter (·.kind = .stamp)).Pairwise
        fun a b => a.timestamp ≤ b.timestamp :=
      (hrewards.sublist List.filter_sublist).sublist List.filter_sublist
    rw [lastStampAt?, latest?_of_inOrder (List.pairwise_map.2 hstamps), List.getLast?_map]

end Gradebook
