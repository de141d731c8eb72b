import Gradebook.Ledger.Views
import Gradebook.Proofs.Time.Order
import Gradebook.Proofs.Time.Zone

/-!
# The start of the local day

What was recorded since the start of the local day was recorded on the local date, up to now, for
a local date that begins at its midnight.
-/

namespace Gradebook.Time

namespace Zone

variable {z : Zone} {day : Int} {now t : Instant}

/-- The local time of a second is midnight of a day. -/
def IsMidnight (z : Zone) (day second : Int) : Prop :=
  second + z.offsetAt second = day * secondsPerDay

instance (z : Zone) (day second : Int) : Decidable (z.IsMidnight day second) :=
  inferInstanceAs (Decidable (_ = _))

/-- The offsets found for the midnight of a day are those with which it occurs, none for a midnight
that is skipped and both for one that is repeated. -/
def FindsMidnight (z : Zone) (day : Int) : Prop :=
  ∀ offset, offset ∈ z.offsetsOfLocal (day * secondsPerDay) ↔
    z.IsMidnight day (day * secondsPerDay - offset)

/-- The day begins at its midnight, which occurs once. -/
def BeginsAtMidnight (z : Zone) (day : Int) : Prop :=
  ∃ midnight, z.IsMidnight day midnight ∧ (∀ other, z.IsMidnight day other → other = midnight) ∧
    z.dayAt (midnight - 1) < day

def SkipsMidnight (z : Zone) (day : Int) : Prop :=
  ∀ second, ¬ z.IsMidnight day second

theorem IsMidnight.second_eq {second : Int} (h : z.IsMidnight day second) :
    second = day * secondsPerDay - z.offsetAt second := by
  simp only [IsMidnight] at h
  omega

theorem dayAt_of_isMidnight {second : Int} (h : z.IsMidnight day second) :
    z.dayAt second = day := by
  simp only [IsMidnight] at h
  rw [dayAt, h]
  exact Int.mul_ediv_cancel day (by decide)

/-- Only the offsets of the zone can give a midnight. -/
theorem findsMidnight_of_offsets
    (h : ∀ offset ∈ z.offsets, offset ∈ z.offsetsOfLocal (day * secondsPerDay) ↔
      z.IsMidnight day (day * secondsPerDay - offset)) : z.FindsMidnight day := by
  intro offset
  constructor
  · exact fun hfound => (h offset (offsetsOfLocal_subset hfound)).1 hfound
  · intro hmidnight
    have heq : offset = z.offsetAt (day * secondsPerDay - offset) := by
      have := hmidnight.second_eq
      omega
    exact (h offset (heq ▸ offsetAt_mem z _)).2 hmidnight

theorem FindsMidnight.head? (h : z.FindsMidnight day) {midnight : Int}
    (hmidnight : z.IsMidnight day midnight)
    (honce : ∀ other, z.IsMidnight day other → other = midnight) :
    (z.offsetsOfLocal (day * secondsPerDay)).head? = some (z.offsetAt midnight) := by
  have hfound : z.offsetAt midnight ∈ z.offsetsOfLocal (day * secondsPerDay) := by
    rw [h, ← hmidnight.second_eq]
    exact hmidnight
  obtain ⟨first, rest, hlist⟩ := List.exists_cons_of_ne_nil (List.ne_nil_of_mem hfound)
  have hfirst : z.IsMidnight day (day * secondsPerDay - first) := by
    rw [← h, hlist]
    exact List.mem_cons_self
  have heq := honce _ hfirst
  have hsecond := hmidnight.second_eq
  rw [hlist, List.head?_cons, Option.some.injEq]
  omega

/-- A midnight for which one offset is found begins its day if the second before belongs to an
earlier one. -/
theorem FindsMidnight.begins (h : z.FindsMidnight day) {offset : Int}
    (hone : z.offsetsOfLocal (day * secondsPerDay) = [offset])
    (hbefore : z.dayAt (day * secondsPerDay - offset - 1) < day) : z.BeginsAtMidnight day := by
  refine ⟨day * secondsPerDay - offset, ?_, ?_, hbefore⟩
  · rw [← h, hone]
    exact List.mem_cons_self
  · intro other hother
    have hfound : z.offsetAt other ∈ z.offsetsOfLocal (day * secondsPerDay) := by
      rw [h, ← hother.second_eq]
      exact hother
    rw [hone, List.mem_singleton] at hfound
    rw [← hfound]
    exact hother.second_eq

theorem FindsMidnight.skips (h : z.FindsMidnight day) (hskips : z.SkipsMidnight day) :
    z.offsetsOfLocal (day * secondsPerDay) = [] :=
  List.eq_nil_iff_forall_not_mem.2 fun offset hfound => hskips _ ((h offset).1 hfound)

/-- Up to now, the local date is that of now from the midnight at which it begins. -/
theorem midnight_le_iff (hdate : z.KeepsDate) {midnight : Int}
    (hmidnight : z.IsMidnight (z.localDay now) midnight)
    (hbefore : z.dayAt (midnight - 1) < z.localDay now) (ht : t.second ≤ now.second) :
    midnight ≤ t.second ↔ z.localDay t = z.localDay now := by
  constructor
  · intro hle
    have hfrom := hdate midnight t.second hle
    have hto := hdate t.second now.second ht
    rw [dayAt_of_isMidnight hmidnight] at hfrom
    exact Int.le_antisymm hto hfrom
  · intro hday
    by_contra hlt
    have hback := hdate t.second (midnight - 1) (by omega)
    have hsame : z.dayAt t.second = z.localDay now := hday
    omega

theorem second_le_of_le (h : t ≤ now) : t.second ≤ now.second := by
  rw [Instant.le_iff] at h
  omega

/-- The start of the local day is its midnight, or the first instant if that comes later. -/
theorem dayStart_le_iff (hbound : ∀ offset ∈ z.offsets, -86400 < offset ∧ offset < 86400)
    (hdate : z.KeepsDate) (hfinds : z.FindsMidnight (z.localDay now)) {midnight : Int}
    (hmidnight : z.IsMidnight (z.localDay now) midnight)
    (honce : ∀ other, z.IsMidnight (z.localDay now) other → other = midnight)
    (hbefore : z.dayAt (midnight - 1) < z.localDay now) (t : Instant) :
    z.dayStart now ≤ t ↔ midnight ≤ t.second := by
  have hstarted : midnight ≤ now.second :=
    (midnight_le_iff (t := now) hdate hmidnight hbefore (Int.le_refl _)).2 rfl
  have hoffset := hbound _ (offsetAt_mem z midnight)
  have hsecond := hmidnight.second_eq
  simp only [dayStart, hfinds.head? hmidnight honce, Option.getD_some, ← hsecond]
  by_cases hrange : InRange midnight 0
  · have hof : Instant.of? midnight 0 = some ⟨midnight, 0, hrange⟩ := dif_pos hrange
    simp only [hof, Instant.le_iff]
    omega
  · have hof : Instant.of? midnight 0 = none := dif_neg hrange
    have hearly : midnight < firstSecond := by
      have hlast := now.inRange.2.1
      simp only [InRange, nanosPerSecond] at hrange
      omega
    have hneg : z.localDay now * secondsPerDay < 0 := by
      simp only [firstSecond] at hearly
      omega
    have hfirst := t.inRange.1
    simp only [hof, if_pos hneg, Instant.le_iff, Instant.earliest]
    omega

end Zone

theorem upTo_wrongAnswersSince (s : Student) {z : Zone} {start now : Instant}
    (h : ∀ t, t ≤ now → (start ≤ t ↔ z.localDay t = z.localDay now)) :
    (s.wrongAnswersSince start).filter (fun e => decide (e.timestamp ≤ now)) =
      s.wrongAnswers.filter fun e =>
        decide (e.timestamp ≤ now ∧ z.localDay e.timestamp = z.localDay now) := by
  rw [Student.wrongAnswersSince, List.filter_filter]
  apply List.filter_congr
  intro e _
  have hstart : (!e.timestamp.before start) = decide (start ≤ e.timestamp) := by
    rw [Bool.eq_iff_iff, Bool.not_eq_true', decide_eq_true_eq]
    rfl
  rw [hstart, Bool.eq_iff_iff, Bool.and_eq_true]
  simp only [decide_eq_true_eq]
  exact and_congr_right (h e.timestamp)

/-- Up to now, the start of the local day bounds what belongs to the local date, if that begins at
its midnight; for a midnight that the zone skips it is midnight of universal time on the local
date. -/
theorem dayStart_bounds_today (text : String) (now : Instant)
    (hdate : (Zone.ofText text).KeepsDate)
    (hfinds : (Zone.ofText text).FindsMidnight ((Zone.ofText text).localDay now)) :
    let z := Zone.ofText text
    (z.BeginsAtMidnight (z.localDay now) →
      (∀ t, t ≤ now → (z.dayStart now ≤ t ↔ z.localDay t = z.localDay now)) ∧
      z.dayStart now ≤ now ∧
      ∀ s : Student, (s.wrongAnswersSince (z.dayStart now)).filter
          (fun e => decide (e.timestamp ≤ now)) =
        s.wrongAnswers.filter fun e =>
          decide (e.timestamp ≤ now ∧ z.localDay e.timestamp = z.localDay now)) ∧
    (z.SkipsMidnight (z.localDay now) →
      ∀ midnight, Instant.of? (z.localDay now * secondsPerDay) 0 = some midnight →
        z.dayStart now = midnight) := by
  intro z
  constructor
  · rintro ⟨midnight, hmidnight, honce, hbefore⟩
    have htoday : ∀ t, t ≤ now → (z.dayStart now ≤ t ↔ z.localDay t = z.localDay now) := by
      intro t ht
      rw [Zone.dayStart_le_iff (fun _ => Zone.offset_ofText text) hdate hfinds hmidnight honce
        hbefore t]
      exact Zone.midnight_le_iff hdate hmidnight hbefore (Zone.second_le_of_le ht)
    exact ⟨htoday, (htoday now (Instant.le_refl now)).2 rfl,
      fun s => upTo_wrongAnswersSince s htoday⟩
  · intro hskips midnight hof
    have hnone : z.offsetsOfLocal (z.localDay now * secondsPerDay) = [] := hfinds.skips hskips
    simp only [Zone.dayStart, hnone, List.head?_nil, Option.getD_none, Int.sub_zero, hof]

/-- Local time skips from midnight to one o'clock in October and goes back from one o'clock to
midnight in February. -/
def midnightChanges : String :=
  "BRT3BRST,M10.3.0/0,M2.3.0/1"

theorem ofText_midnightChanges : Zone.ofText midnightChanges =
    .alternating (-10800) (-7200) ⟨.weekdayOf 10 3 0, 0⟩ ⟨.weekdayOf 2 3 0, 3600⟩ := by
  decide +kernel

theorem keepsDate_midnightChanges : (Zone.ofText midnightChanges).KeepsDate := by
  rw [ofText_midnightChanges]
  have hfebruary (year : Int) := weekdayOf_bounds 2 3 0 year (by decide)
  have hoctober (year : Int) := weekdayOf_bounds 10 3 0 year (by decide)
  have hyearly := @Zone.changesYearly_of_stop_lt (-10800) (-7200) ⟨.weekdayOf 10 3 0, 0⟩
    ⟨.weekdayOf 2 3 0, 3600⟩ fun year => by
      have hstop := hfebruary year
      have hstart := hoctober year
      rw [dayNumber_february] at hstop
      rw [dayNumber_october] at hstart
      have hdays := newYear_add_le year
      simp only [Change.local, secondsPerDay]
      omega
  apply hyearly.keepsDate
  · intro year
    simp only [Change.local, secondsPerDay]
    omega
  · intro year
    simp only [Change.local, secondsPerDay]
    omega

/-- A day in March, on which the zone has one offset. -/
theorem midnight_bounds_a_day_in_march :
    let z := Zone.ofText midnightChanges
    let now : Instant := ⟨1772377200, 0, by decide⟩
    z.KeepsDate ∧ z.FindsMidnight (z.localDay now) ∧ z.BeginsAtMidnight (z.localDay now) ∧
      (∀ t, t ≤ now → (z.dayStart now ≤ t ↔ z.localDay t = z.localDay now)) ∧
      z.dayStart now ≤ now := by
  intro z now
  have hfinds : z.FindsMidnight (z.localDay now) := by
    apply Zone.findsMidnight_of_offsets
    decide +kernel
  have hbegins : z.BeginsAtMidnight (z.localDay now) := by
    have hone : z.offsetsOfLocal (z.localDay now * secondsPerDay) = [-10800] := by
      decide +kernel
    exact hfinds.begins hone (by decide +kernel)
  obtain ⟨htoday, hstart, -⟩ :=
    (dayStart_bounds_today midnightChanges now keepsDate_midnightChanges hfinds).1 hbegins
  exact ⟨keepsDate_midnightChanges, hfinds, hbegins, htoday, hstart⟩

/-- In October the start of the day lies on the date before, in February it lies after now. -/
theorem day_start_misses_changed_midnights :
    let z := Zone.ofText midnightChanges
    let autumn : Instant := ⟨1792371600, 0, by decide⟩
    let evening : Instant := ⟨1792285200, 0, by decide⟩
    let summer : Instant := ⟨1771122600, 0, by decide⟩
    z.KeepsDate ∧
      (z.FindsMidnight (z.localDay autumn) ∧ evening ≤ autumn ∧ z.dayStart autumn ≤ evening ∧
        z.localDay evening ≠ z.localDay autumn) ∧
      z.FindsMidnight (z.localDay summer) ∧ ¬ z.dayStart summer ≤ summer := by
  intro z autumn evening summer
  have hautumn : z.FindsMidnight (z.localDay autumn) := by
    apply Zone.findsMidnight_of_offsets
    decide +kernel
  have hsummer : z.FindsMidnight (z.localDay summer) := by
    apply Zone.findsMidnight_of_offsets
    decide +kernel
  exact ⟨keepsDate_midnightChanges, ⟨hautumn, by decide +kernel, by decide +kernel,
    by decide +kernel⟩, hsummer, by decide +kernel⟩

end Gradebook.Time
