import Gradebook.Proofs.Time.Calendar
import Gradebook.Time.ZoneText
import Mathlib.Order.Monotone.Basic

/-!
# The local date

What the offsets of a zone do to its local date.  Where the offset changes twice a year, away from
the year's ends, the local date never goes back if neither change takes it back.
-/

namespace Gradebook.Time

/-- The day number of the first of January. -/
def newYear (year : Int) : Int :=
  (Date.mk year 1 1).dayNumber

theorem newYear_eq (year : Int) : newYear year = marchFirst (year - 1) + 306 := by
  have hmonth : daysToMonth ((1 + 9) % 12) = 306 := rfl
  simp only [newYear, Date.dayNumber, if_pos (by decide : 1 ≤ 2), hmonth]
  omega

theorem newYear_succ (year : Int) : newYear (year + 1) = marchFirst year + 306 := by
  have hyear : year + 1 - 1 = year := by omega
  rw [newYear_eq, hyear]

theorem marchFirst_pred (year : Int) :
    marchFirst (year - 1) + 365 ≤ marchFirst year := by
  simp only [marchFirst]
  omega

theorem year_ofYearDay (year : Int) {n : Nat} (h : n ≤ 365) :
    (ofYearDay year n).year = if n < 306 then year else year + 1 := by
  have hmonth : (monthAndDay n).1 = (5 * n + 2) / 153 := rfl
  simp only [ofYearDay, hmonth]
  split <;> split <;> first | rfl | omega

theorem yearOf_bounds (second : Int) :
    newYear (yearOf second) * 86400 ≤ second ∧
      second < newYear (yearOf second + 1) * 86400 := by
  obtain ⟨year, day, hday, -, hsum, hdate⟩ := ofDayNumber_split (second / secondsPerDay)
  have hyear : yearOf second = if day < 306 then year else year + 1 := by
    rw [yearOf, hdate, year_ofYearDay year hday]
  have hpred := marchFirst_pred year
  have hsucc := marchFirst_pred (year + 1)
  have hback : year + 1 - 1 = year := by omega
  have hfloor : second / 86400 = marchFirst year + day := hsum.symm
  rw [hback] at hsucc
  rw [newYear_succ, newYear_eq, hyear]
  split
  · omega
  · rw [hback]
    omega

theorem newYear_add_le (year : Int) : newYear year + 365 ≤ newYear (year + 1) := by
  have hpred := marchFirst_pred year
  rw [newYear_succ, newYear_eq]
  omega

theorem newYear_mono {year later : Int} (h : year ≤ later) : newYear year ≤ newYear later := by
  have hmono : Monotone newYear := by
    apply monotone_int_of_le_succ
    intro y
    have := newYear_add_le y
    omega
  exact hmono h

theorem yearOf_eq {second year : Int} (hlo : newYear year * 86400 ≤ second)
    (hhi : second < newYear (year + 1) * 86400) : yearOf second = year := by
  obtain ⟨hfrom, hto⟩ := yearOf_bounds second
  have hle : ¬ year + 1 ≤ yearOf second := fun h => by
    have := newYear_mono h
    omega
  have hge : ¬ yearOf second + 1 ≤ year := fun h => by
    have := newYear_mono h
    omega
  omega

theorem dayNumber_february (year : Int) : (Date.mk year 2 1).dayNumber = newYear year + 31 := by
  have hmonth : daysToMonth ((2 + 9) % 12) = 337 := rfl
  simp only [newYear_eq, Date.dayNumber, if_pos (by decide : 2 ≤ 2), hmonth]
  omega

theorem dayNumber_october (year : Int) :
    (Date.mk year 10 1).dayNumber = newYear (year + 1) - 92 := by
  have hmonth : daysToMonth ((10 + 9) % 12) = 214 := rfl
  simp only [newYear_succ, Date.dayNumber, if_neg (by decide : ¬ 10 ≤ 2), hmonth]
  omega

/-- A weekday of a week of a month lies in the month. -/
theorem weekdayOf_bounds (month week weekday : Nat) (year : Int) (h : week ≤ 5) :
    (Date.mk year month 1).dayNumber ≤ (YearDay.weekdayOf month week weekday).dayNumber year ∧
      (YearDay.weekdayOf month week weekday).dayNumber year ≤
        (Date.mk year month 1).dayNumber + 30 := by
  have hdays := daysInMonth_le year month
  simp only [YearDay.dayNumber]
  split <;> omega

namespace Zone

variable {z : Zone}

/-- The offsets that a zone ever has. -/
def offsets : Zone → List Int
  | fixed offset => [offset]
  | alternating standard daylight _ _ => [standard, daylight]

theorem offsetAt_mem (z : Zone) (second : Int) : z.offsetAt second ∈ z.offsets := by
  cases z with
  | fixed offset => simp [offsetAt, offsets]
  | alternating standard daylight start stop =>
    simp only [offsetAt, offsets]
    split <;> simp

theorem offsetsBetween_subset {lesser greater toLesser toGreater : Int} {skipFirst : Bool}
    {second offset : Int}
    (h : offset ∈ offsetsBetween lesser greater toLesser toGreater skipFirst second) :
    offset = lesser ∨ offset = greater := by
  simp only [offsetsBetween] at h
  repeat' split at h
  all_goals simp only [List.mem_cons, List.not_mem_nil, or_false] at h
  all_goals omega

theorem offsetsOfLocal_subset {second offset : Int} (h : offset ∈ z.offsetsOfLocal second) :
    offset ∈ z.offsets := by
  cases z with
  | fixed _ => exact h
  | alternating standard daylight start stop =>
    simp only [offsetsOfLocal] at h
    simp only [offsets, List.mem_cons, List.not_mem_nil, or_false]
    split at h
    · exact .inl (List.mem_singleton.1 h)
    · split at h
      · exact offsetsBetween_subset h
      · exact (offsetsBetween_subset h).symm

theorem isOffset_of_read? {text : List Char} (h : read? text = some z) :
    ∀ offset ∈ z.offsets, isOffset offset = true := by
  simp only [read?, Option.bind_eq_bind, Option.bind_eq_some_iff] at h
  obtain ⟨afterName, -, ⟨standard, s⟩, -, h⟩ := h
  cases hstandard : isOffset standard with
  | false => simp [hstandard] at h
  | true =>
    have hend {daylight : Int} {start stop : Change} {rest : List Char}
        (h : (if decide (rest = []) && isOffset daylight then
          some (alternating standard daylight start stop) else none) = some z) :
        ∀ offset ∈ z.offsets, isOffset offset = true := by
      split at h
      case isFalse => cases h
      case isTrue hdaylight =>
        cases h
        simp only [Bool.and_eq_true] at hdaylight
        simp [offsets, hstandard, hdaylight.2]
    simp only [hstandard, Bool.not_true, if_neg (by decide : ¬ false = true)] at h
    split at h
    case isTrue =>
      cases h
      simpa [offsets] using hstandard
    case isFalse =>
      simp only [Option.bind_eq_some_iff] at h
      obtain ⟨afterNames, -, h⟩ := h
      -- the daylight offset is written or an hour east of the standard
      split at h
      all_goals
        simp only [Option.bind_eq_some_iff] at h
        obtain ⟨⟨daylight, s⟩, -, afterComma, -, ⟨start, s⟩, -, afterStart, -, ⟨stop, s⟩, -, h⟩ := h
        exact hend h

theorem offset_ofText (text : String) {offset : Int} (h : offset ∈ (ofText text).offsets) :
    -86400 < offset ∧ offset < 86400 := by
  have hoffset : isOffset offset = true := by
    simp only [ofText] at h
    generalize (List.dropWhile isMargin
      (text.toList.dropWhile isMargin).reverse).reverse = written at h
    cases hread : read? written with
    | none =>
      rw [hread] at h
      cases List.mem_singleton.1 h
      rfl
    | some z =>
      rw [hread] at h
      exact isOffset_of_read? hread offset h
  simp only [isOffset, secondsPerDay, decide_eq_true_eq] at hoffset
  omega

/-- The local day of a second, as `localDay` is that of an instant. -/
def dayAt (z : Zone) (second : Int) : Int :=
  (second + z.offsetAt second) / secondsPerDay

/-- The local date never goes back. -/
def KeepsDate (z : Zone) : Prop :=
  ∀ second later, second ≤ later → z.dayAt second ≤ z.dayAt later

/-- Every year the offset changes at two seconds, neither of them at the year's end. -/
structure ChangesYearly (z : Zone) (outer inner : Int) (first second : Int → Int) : Prop where
  inside : ∀ year, newYear year * 86400 ≤ first year ∧ first year ≤ second year ∧
    second year < newYear (year + 1) * 86400
  offset : ∀ s, z.offsetAt s =
    if first (yearOf s) ≤ s ∧ s < second (yearOf s) then inner else outer

theorem changesYearly_of_stop_lt {standard daylight : Int} {start stop : Change}
    (h : ∀ year, newYear year * 86400 ≤ stop.local year - daylight ∧
      stop.local year - daylight < start.local year - standard ∧
      start.local year - standard < newYear (year + 1) * 86400) :
    ChangesYearly (alternating standard daylight start stop) daylight standard
      (stop.local · - daylight) (start.local · - standard) := by
  refine ⟨fun year => ⟨(h year).1, Int.le_of_lt (h year).2.1, (h year).2.2⟩, fun s => ?_⟩
  obtain ⟨hfrom, hto⟩ := yearOf_bounds s
  have hyear := h (yearOf s)
  have hlast := h (yearOf s - 1)
  have hnext := h (yearOf s + 1)
  have hback : yearOf s - 1 + 1 = yearOf s := by omega
  rw [hback] at hlast
  -- no change of the years around reaches into this one
  have hin : inDaylight (start.local · - standard) (stop.local · - daylight) s (yearOf s) =
      !decide (stop.local (yearOf s) - daylight ≤ s ∧ s < start.local (yearOf s) - standard) := by
    rw [inDaylight, if_neg (by omega), Bool.eq_iff_iff]
    split
    · simp only [Bool.or_eq_true, Bool.not_eq_true', decide_eq_true_eq, decide_eq_false_iff_not]
      omega
    · split
      · simp only [Bool.false_eq_true, false_iff, Bool.not_eq_true', decide_eq_false_iff_not,
          not_not]
        omega
      · simp only [Bool.or_eq_true, Bool.not_eq_true', decide_eq_true_eq, decide_eq_false_iff_not]
        omega
  simp only [offsetAt, hin, Bool.not_eq_true', decide_eq_false_iff_not, ite_not]

/-- Between two seconds the offset stays, or one of the two changes takes place. -/
theorem ChangesYearly.step {outer inner : Int} {first second : Int → Int}
    (h : z.ChangesYearly outer inner first second) (s : Int) :
    z.offsetAt (s + 1) = z.offsetAt s ∨
      (∃ year, s + 1 = first year ∧ z.offsetAt s = outer ∧ z.offsetAt (s + 1) = inner) ∨
      ∃ year, s + 1 = second year ∧ z.offsetAt s = inner ∧ z.offsetAt (s + 1) = outer := by
  obtain ⟨hfrom, hto⟩ := yearOf_bounds s
  have hyear := h.inside (yearOf s)
  have hnext := h.inside (yearOf s + 1)
  rw [h.offset s, h.offset (s + 1)]
  by_cases hlast : s + 1 < newYear (yearOf s + 1) * 86400
  case neg =>
    have hsucc : yearOf (s + 1) = yearOf s + 1 := yearOf_eq (by omega) (by omega)
    have hnow : ¬ (first (yearOf s) ≤ s ∧ s < second (yearOf s)) := by omega
    rw [hsucc, if_neg hnow]
    split
    case isTrue => exact .inr (.inl ⟨yearOf s + 1, by omega, rfl, rfl⟩)
    case isFalse => exact .inl rfl
  case pos =>
    have hsame : yearOf (s + 1) = yearOf s := yearOf_eq (by omega) hlast
    rw [hsame]
    split
    case isTrue =>
      split
      case isTrue => exact .inl rfl
      case isFalse => exact .inr (.inl ⟨yearOf s, by omega, rfl, rfl⟩)
    case isFalse =>
      split
      case isTrue => exact .inr (.inr ⟨yearOf s, by omega, rfl, rfl⟩)
      case isFalse => exact .inl rfl

theorem ChangesYearly.keepsDate {outer inner : Int} {first second : Int → Int}
    (h : z.ChangesYearly outer inner first second)
    (hfirst : ∀ year, (first year - 1 + outer) / 86400 ≤ (first year + inner) / 86400)
    (hsecond : ∀ year, (second year - 1 + inner) / 86400 ≤ (second year + outer) / 86400) :
    z.KeepsDate := by
  apply monotone_int_of_le_succ
  intro s
  simp only [dayAt, secondsPerDay]
  obtain hstays | ⟨year, hs, hold, hnew⟩ | ⟨year, hs, hold, hnew⟩ := h.step s
  · rw [hstays]
    omega
  · have hchange := hfirst year
    rw [← hs, Int.add_sub_cancel] at hchange
    rw [hold, hnew]
    exact hchange
  · have hchange := hsecond year
    rw [← hs, Int.add_sub_cancel] at hchange
    rw [hold, hnew]
    exact hchange

end Zone

end Gradebook.Time
