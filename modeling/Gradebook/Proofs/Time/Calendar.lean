import Gradebook.Time.Calendar

/-!
# Days of the calendar and their numbers

A day number splits into periods of the calendar, and the day made of them is a day that the
calendar has and carries that number again.
-/

namespace Gradebook.Time

/-- Days before the first of March of a year, by the place of the year in its period of 400 years:
the century, the cycle of four years and the year of the cycle. -/
theorem marchFirst_split (era : Int) {century cycle year : Nat} (hcentury : century ≤ 3)
    (hcycle : cycle ≤ 24) (hyear : year ≤ 3) :
    marchFirst (400 * era + (100 * century + 4 * cycle + year : Nat)) =
      146097 * era + 36524 * century + 1461 * cycle + 365 * year - 719468 := by
  unfold marchFirst
  omega

theorem isLeapYear_of {year : Int} (h4 : year % 4 = 0) (h400 : year % 100 = 0 → year % 400 = 0) :
    isLeapYear year = true := by
  simp only [isLeapYear, Bool.and_eq_true, Bool.or_eq_true, beq_iff_eq, bne_iff_ne]
  omega

theorem monthAndDay_spec {n : Nat} (h : n ≤ 365) :
    (monthAndDay n).1 ≤ 11 ∧ 1 ≤ (monthAndDay n).2 ∧
      daysToMonth (monthAndDay n).1 + (monthAndDay n).2 = n + 1 := by
  simp only [monthAndDay, daysToMonth]
  omega

def ofYearDay (year : Int) (n : Nat) : Date :=
  if (monthAndDay n).1 < 10 then ⟨year, (monthAndDay n).1 + 3, (monthAndDay n).2⟩
  else ⟨year + 1, (monthAndDay n).1 - 9, (monthAndDay n).2⟩

theorem dayNumber_ofYearDay (year : Int) {n : Nat} (h : n ≤ 365) :
    (ofYearDay year n).dayNumber = marchFirst year + n := by
  obtain ⟨hmonth, hday, hsum⟩ := monthAndDay_spec h
  unfold ofYearDay
  split
  next hlt =>
    have hyear : ¬ (monthAndDay n).1 + 3 ≤ 2 := by omega
    have hm : ((monthAndDay n).1 + 3 + 9) % 12 = (monthAndDay n).1 := by omega
    simp only [Date.dayNumber, if_neg hyear, hm]
    omega
  next hge =>
    have hyear : (monthAndDay n).1 - 9 ≤ 2 := by omega
    have hm : ((monthAndDay n).1 - 9 + 9) % 12 = (monthAndDay n).1 := by omega
    simp only [Date.dayNumber, if_pos hyear, hm]
    have hy : year + 1 - 1 = year := by omega
    rw [hy]
    omega

theorem month_ofYearDay (year : Int) {n : Nat} (h : n ≤ 365) :
    (ofYearDay year n).month ≤ 12 := by
  obtain ⟨hmonth, -, -⟩ := monthAndDay_spec h
  unfold ofYearDay
  split
  · simp only
    omega
  · simp only
    omega

/-- Every month from March to January ends before the next begins, and February has a last day
only in a leap year. -/
theorem isValid_ofYearDay {year : Int} {n : Nat} (h : n ≤ 365)
    (hleap : n = 365 → isLeapYear (year + 1) = true) : (ofYearDay year n).isValid = true := by
  have hmonth : (monthAndDay n).1 = (5 * n + 2) / 153 := rfl
  have hday : (monthAndDay n).2 = n - (153 * ((5 * n + 2) / 153) + 2) / 5 + 1 := rfl
  have hcases : (5 * n + 2) / 153 = 0 ∨ (5 * n + 2) / 153 = 1 ∨ (5 * n + 2) / 153 = 2 ∨
      (5 * n + 2) / 153 = 3 ∨ (5 * n + 2) / 153 = 4 ∨ (5 * n + 2) / 153 = 5 ∨
      (5 * n + 2) / 153 = 6 ∨ (5 * n + 2) / 153 = 7 ∨ (5 * n + 2) / 153 = 8 ∨
      (5 * n + 2) / 153 = 9 ∨ (5 * n + 2) / 153 = 10 ∨ (5 * n + 2) / 153 = 11 := by omega
  -- a month is a bound on the day of the year, which the length of the month then meets
  simp only [ofYearDay, hmonth, hday]
  rcases hcases with hm | hm | hm | hm | hm | hm | hm | hm | hm | hm | hm | hm
  all_goals
    rw [hm]
    simp [Date.isValid, daysInMonth]
  all_goals try omega
  -- February
  by_cases hn : n = 365
  · simp [hn, hleap hn]
  · split <;> omega

/-- A day number is the number of a day in a year, and only a year that ends with a leap day has a
day after its first 365. -/
theorem ofDayNumber_split (n : Int) : ∃ (year : Int) (day : Nat), day ≤ 365 ∧
    (day = 365 → isLeapYear (year + 1) = true) ∧ marchFirst year + day = n ∧
    Date.ofDayNumber n = ofYearDay year day := by
  let era := (n + 719468) / 146097
  let inEra := ((n + 719468) % 146097).toNat
  let century := min (inEra / 36524) 3
  let inCentury := inEra - 36524 * century
  let cycle := inCentury / 1461
  let inCycle := inCentury - 1461 * cycle
  let year := min (inCycle / 365) 3
  have hcentury : century ≤ 3 := by omega
  have hcycle : cycle ≤ 24 := by omega
  have hyear : year ≤ 3 := by omega
  -- the minima hold a leap day in the century, or the year, that it ends
  have hlast : inCycle - 365 * year = 365 → year = 3 ∧ (cycle = 24 → century = 3) := by omega
  refine ⟨400 * era + (100 * century + 4 * cycle + year : Nat), inCycle - 365 * year, by omega,
    ?_, ?_, rfl⟩
  · intro h
    obtain ⟨h3, h24⟩ := hlast h
    apply isLeapYear_of
    · omega
    · omega
  · rw [marchFirst_split era hcentury hcycle hyear]
    omega

theorem dayNumber_ofDayNumber (n : Int) : (Date.ofDayNumber n).dayNumber = n := by
  obtain ⟨year, day, hday, -, hsum, hdate⟩ := ofDayNumber_split n
  rw [hdate, dayNumber_ofYearDay year hday, hsum]

theorem isValid_ofDayNumber (n : Int) : (Date.ofDayNumber n).isValid = true := by
  obtain ⟨year, day, hday, hleap, -, hdate⟩ := ofDayNumber_split n
  rw [hdate]
  exact isValid_ofYearDay hday hleap

theorem month_ofDayNumber (n : Int) : (Date.ofDayNumber n).month ≤ 12 := by
  obtain ⟨year, day, hday, -, -, hdate⟩ := ofDayNumber_split n
  rw [hdate]
  exact month_ofYearDay year hday

theorem daysInMonth_le (year : Int) (month : Nat) : daysInMonth year month ≤ 31 := by
  unfold daysInMonth
  split
  all_goals first
    | omega
    | split <;> omega

theorem day_ofDayNumber (n : Int) : (Date.ofDayNumber n).day ≤ 31 := by
  have h := isValid_ofDayNumber n
  simp only [Date.isValid, Bool.and_eq_true, decide_eq_true_eq] at h
  exact Nat.le_trans h.2 (daysInMonth_le _ _)

end Gradebook.Time
