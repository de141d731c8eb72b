import Gradebook.Proofs.Text.Decimal
import Gradebook.Proofs.Time.Calendar
import Gradebook.Time.Rfc3339

/-!
# Written instants read back

The text of an instant is read back as that instant: the year with its sign, the fraction with as
many digits as it has, and a leap second as second 60.
-/

namespace Gradebook.Time

open Gradebook.Text

theorem trimStartOf_cons {c : Char} (rest : List Char) (h : isBlank c = false) :
    trimStartOf (c :: rest) = c :: rest := by
  rw [trimStartOf, List.dropWhile_cons_of_neg]
  simp [h]

theorem trimStartOf_padded (width n : Nat) (rest : List Char) :
    trimStartOf (padded width n ++ rest) = padded width n ++ rest := by
  obtain ⟨c, ds, hd⟩ := List.exists_cons_of_ne_nil (padded_ne_nil width n)
  have hc : c.isDigit = true := isDigit_of_mem_padded (by rw [hd]; exact List.mem_cons_self)
  rw [hd, List.cons_append, trimStartOf_cons _ (isBlank_of_isDigit hc)]

theorem spacedNumber?_padded {n : Nat} (rest : List Char) (h : n < 100) :
    spacedNumber? 2 (padded 2 n ++ rest) = some (n, rest) := by
  rw [spacedNumber?, trimStartOf_padded, number?_padded rest (by decide) h]

theorem expect?_cons {c : Char} (rest : List Char) (h : isBlank c = false) :
    expect? c (c :: rest) = some rest := by
  simp [expect?, trimStartOf_cons rest h]

theorem number?_signed (n : Nat) {rest : List Char} (hrest : EndsDigits rest) :
    number? (padded 4 n ++ rest).length (padded 4 n ++ rest) = some (n, rest) := by
  rw [number?_append (fun c => isDigit_of_mem_padded) (padded_ne_nil 4 n)
    (by rw [List.length_append]; omega) (.inr hrest), digitsValue_padded]

theorem readYear?_writeYear (year : Int) {rest : List Char} (hrest : EndsDigits rest) :
    readYear? (writeYear year ++ rest) = some (year, rest) := by
  unfold writeYear
  split
  next hplain =>
    have hlt : year.toNat < tenTo 4 := by
      change year.toNat < 10000
      omega
    have hval : (year.toNat : Int) = year := by omega
    obtain ⟨c, ds, hd⟩ := List.exists_cons_of_ne_nil (padded_ne_nil 4 year.toNat)
    have hc : c.isDigit = true := isDigit_of_mem_padded (by rw [hd]; exact List.mem_cons_self)
    have hnum := number?_padded (n := year.toNat) rest (by decide : 0 < 4) hlt
    unfold readYear?
    rw [trimStartOf_padded]
    rw [hd, List.cons_append] at hnum ⊢
    -- the first character is a digit and so no sign
    split
    next heq =>
      rw [(List.cons.inj heq).1] at hc
      exact absurd hc (by decide)
    next heq =>
      rw [(List.cons.inj heq).1] at hc
      exact absurd hc (by decide)
    next =>
      rw [hnum]
      simp [hval]
  next hsigned =>
    split
    next hneg =>
      have hval : -(year.natAbs : Int) = year := by omega
      rw [List.cons_append, readYear?, trimStartOf_cons _ (by decide)]
      simp only [number?_signed year.natAbs hrest, Option.map_some, hval]
    next hpos =>
      have hval : (year.natAbs : Int) = year := by omega
      rw [List.cons_append, readYear?, trimStartOf_cons _ (by decide)]
      simp only [number?_signed year.natAbs hrest, Option.map_some, hval]

theorem readFraction?_padded {width n : Nat} (rest : List Char) (hw : 0 < width) (hw9 : width ≤ 9)
    (h : n < tenTo width) (hrest : EndsDigits rest) :
    readFraction? ('.' :: padded width n ++ rest) = some (n * tenTo (9 - width), rest) := by
  have hds : ∀ c ∈ padded width n, c.isDigit = true := fun c => isDigit_of_mem_padded
  have hlen := length_padded hw h
  have htake := takeWhile_take_append hds (by omega : (padded width n).length ≤ 9) (.inr hrest)
  have hrun := digitRun_append hds hrest
  simp only [List.cons_append, readFraction?, htake, if_neg (padded_ne_nil width n), hrun,
    digitsValue_padded, hlen]

theorem readFraction?_writeFraction {nano : Nat} (h : nano < nanosPerSecond) :
    readFraction? (writeFraction nano ++ ['Z']) = some (nano, ['Z']) := by
  have hlt : nano < 1000000000 := h
  have hend : EndsDigits ['Z'] := endsDigits_cons (by decide)
  unfold writeFraction
  split
  next hzero =>
    rw [hzero]
    rfl
  next hnano =>
    split
    next hmilli =>
      have hdigits : nano / 1000000 < tenTo 3 := by
        change nano / 1000000 < 1000
        omega
      rw [readFraction?_padded _ (by decide) (by decide) hdigits hend]
      simp only [tenTo, Option.some.injEq, Prod.mk.injEq, and_true]
      change nano / 1000000 * 1000000 = nano
      omega
    next =>
      split
      next hmicro =>
        have hdigits : nano / 1000 < tenTo 6 := by
          change nano / 1000 < 1000000
          omega
        rw [readFraction?_padded _ (by decide) (by decide) hdigits hend]
        simp only [tenTo, Option.some.injEq, Prod.mk.injEq, and_true]
        change nano / 1000 * 1000 = nano
        omega
      next =>
        have hdigits : nano < tenTo 9 := by
          change nano < 1000000000
          omega
        rw [readFraction?_padded _ (by decide) (by decide) hdigits hend]
        simp only [tenTo, Option.some.injEq, Prod.mk.injEq, and_true]
        change nano * 1 = nano
        omega

theorem secondOfDay_lt (t : Instant) : t.secondOfDay < 86400 := by
  simp only [Instant.secondOfDay, secondsPerDay]
  omega

theorem second_eq (t : Instant) : t.dayNumber * 86400 + t.secondOfDay = t.second := by
  simp only [Instant.secondOfDay, Instant.dayNumber, secondsPerDay]
  omega

theorem of?_self (t : Instant) : Instant.of? t.second t.nano = some t :=
  dif_pos t.inRange

theorem ofCivil?_parts (t : Instant) :
    Instant.ofCivil? (.ofDayNumber t.dayNumber) (t.secondOfDay / 3600) (t.secondOfDay / 60 % 60)
      (t.secondOfDay % 60 + t.nano / nanosPerSecond) (t.nano % nanosPerSecond) 0 = some t := by
  have hsecond := second_eq t
  have hlt := secondOfDay_lt t
  obtain ⟨hfirst, hlast, hnano, hleap⟩ := t.inRange
  simp only [firstSecond, lastSecond, nanosPerSecond] at hfirst hlast hnano hleap
  have hguard : ((Date.ofDayNumber t.dayNumber).isValid &&
      firstSecond ≤ t.dayNumber * secondsPerDay && t.dayNumber * secondsPerDay ≤ lastSecond &&
      t.secondOfDay / 3600 < 24 && t.secondOfDay / 60 % 60 < 60 &&
      t.secondOfDay % 60 + t.nano / nanosPerSecond ≤ 60) = true := by
    simp only [isValid_ofDayNumber, Bool.true_and, Bool.and_eq_true, decide_eq_true_eq, firstSecond,
      lastSecond, secondsPerDay, nanosPerSecond]
    omega
  -- in a leap second the parts have second 60, of which one goes back to the nanoseconds
  have hwhole : t.dayNumber * secondsPerDay + (3600 * (t.secondOfDay / 3600) +
      60 * (t.secondOfDay / 60 % 60) +
      min (t.secondOfDay % 60 + t.nano / nanosPerSecond) 59 : Nat) - 60 * 0 = t.second := by
    simp only [secondsPerDay, nanosPerSecond]
    omega
  have hfraction : (t.secondOfDay % 60 + t.nano / nanosPerSecond -
      min (t.secondOfDay % 60 + t.nano / nanosPerSecond) 59) * nanosPerSecond +
      t.nano % nanosPerSecond = t.nano := by
    simp only [nanosPerSecond]
    omega
  simp only [Instant.ofCivil?, dayNumber_ofDayNumber, hguard, if_true]
  rw [hfraction, hwhole, of?_self]

theorem Instant.read?_write (t : Instant) : Instant.read? t.write = some t := by
  have hday := day_ofDayNumber t.dayNumber
  have hmonth := month_ofDayNumber t.dayNumber
  have hlt := secondOfDay_lt t
  have hnano : t.nano < 2 * nanosPerSecond := t.inRange.2.2.1
  have hleap : t.nano / nanosPerSecond < 2 := Nat.div_lt_of_lt_mul (by omega)
  have hfraction := readFraction?_writeFraction (Nat.mod_lt t.nano (by decide : 0 < nanosPerSecond))
  have hyear : ∀ rest, readYear? (writeYear (Date.ofDayNumber t.dayNumber).year ++ '-' :: rest) =
      some ((Date.ofDayNumber t.dayNumber).year, '-' :: rest) := fun rest =>
    readYear?_writeYear _ (endsDigits_cons (by decide))
  have hmonths : ∀ rest, spacedNumber? 2 (padded 2 (Date.ofDayNumber t.dayNumber).month ++ rest) =
      some ((Date.ofDayNumber t.dayNumber).month, rest) := fun rest =>
    spacedNumber?_padded rest (by omega)
  have hdays : ∀ rest, spacedNumber? 2 (padded 2 (Date.ofDayNumber t.dayNumber).day ++ rest) =
      some ((Date.ofDayNumber t.dayNumber).day, rest) := fun rest =>
    spacedNumber?_padded rest (by omega)
  have hhours : ∀ rest, spacedNumber? 2 (padded 2 (t.secondOfDay / 3600) ++ rest) =
      some (t.secondOfDay / 3600, rest) := fun rest =>
    spacedNumber?_padded rest (by omega)
  have hminutes : ∀ rest, spacedNumber? 2 (padded 2 (t.secondOfDay / 60 % 60) ++ rest) =
      some (t.secondOfDay / 60 % 60, rest) := fun rest =>
    spacedNumber?_padded rest (by omega)
  have hseconds : ∀ rest,
      spacedNumber? 2 (padded 2 (t.secondOfDay % 60 + t.nano / nanosPerSecond) ++ rest) =
        some (t.secondOfDay % 60 + t.nano / nanosPerSecond, rest) := fun rest =>
    spacedNumber?_padded rest (by omega)
  have hoffset : readOffset? (trimStartOf ['Z']) = some (0, []) := rfl
  simp only [Instant.read?, Instant.write, writeDate, List.append_assoc, List.cons_append, hyear,
    hmonths, hdays, hhours, hminutes, hseconds, hfraction, hoffset, Option.bind_eq_bind,
    Option.bind_some, expect?_cons _ (by decide : isBlank '-' = false),
    expect?_cons _ (by decide : isBlank ':' = false), List.all_nil, if_true]
  exact ofCivil?_parts t

end Gradebook.Time
