import Fieldwise.Calendar.Timestamp

/-!
# Days and their numbers

The days of a year are those of its months, and the days before a year are those of the years
before it. So the cuts at 400, 100, 4 and single years and then at the months find the day with a
number, and there is one for every number between the first day and the last.
-/

namespace Fieldwise.Calendar

theorem isLeapYear_iff (year : Int) :
    isLeapYear year = true ↔ year % 4 = 0 ∧ (year % 100 ≠ 0 ∨ year % 400 = 0) := by
  simp only [isLeapYear, Bool.and_eq_true, Bool.or_eq_true, beq_iff_eq, bne_iff_ne]

theorem daysInYear_bounds (year : Int) : 365 ≤ daysInYear year ∧ daysInYear year ≤ 366 := by
  unfold daysInYear
  split
  · omega
  · omega

theorem daysInMonth_le (year : Int) (month : Nat) : daysInMonth year month ≤ 31 := by
  unfold daysInMonth
  split
  · split
    · decide
    · decide
  · split
    · decide
    · decide

namespace Date

/-! ### The days of a year -/

theorem daysBeforeMonth_succ (year : Int) (month : Nat) (h : 1 ≤ month) :
    daysBeforeMonth year (month + 1) = daysBeforeMonth year month + daysInMonth year month := by
  obtain ⟨m, rfl⟩ := Nat.exists_eq_add_of_le' h
  rfl

theorem daysBeforeMonth_thirteen (year : Int) : daysBeforeMonth year 13 = daysInYear year := by
  simp only [daysBeforeMonth, daysInMonth, daysInYear]
  cases isLeapYear year with
  | false => rfl
  | true => rfl

/-- Cutting off the months leaves a day of the month that it comes to, in the same place of the
year. -/
theorem monthAndDay_spec (year : Int) (left month day : Nat) (hmonth : 1 ≤ month)
    (hlast : month + left = 12) (hday : 1 ≤ day)
    (hyear : daysBeforeMonth year month + day ≤ daysInYear year) :
    let found := monthAndDay year month day left
    1 ≤ found.1 ∧ found.1 ≤ 12 ∧ 1 ≤ found.2 ∧ found.2 ≤ daysInMonth year found.1 ∧
      daysBeforeMonth year found.1 + found.2 = daysBeforeMonth year month + day := by
  have hsucc := daysBeforeMonth_succ year month hmonth
  induction left generalizing month day with
  | zero =>
    -- December is the last month, so what is left of the year is in it.
    have hdecember : month = 12 := by omega
    have hthirteen := daysBeforeMonth_thirteen year
    subst hdecember
    rw [hsucc] at hthirteen
    have hfits : day ≤ daysInMonth year 12 := by omega
    exact ⟨hmonth, Nat.le_refl 12, hday, hfits, rfl⟩
  | succ left ih =>
    rw [monthAndDay]
    split
    · rename_i hfits
      exact ⟨hmonth, by omega, hday, hfits, rfl⟩
    · rename_i hlong
      have hrest : daysBeforeMonth year (month + 1) + (day - daysInMonth year month) =
          daysBeforeMonth year month + day := by omega
      have hfound := ih (month + 1) (day - daysInMonth year month) (by omega) (by omega)
        (by omega) (by omega) (daysBeforeMonth_succ year (month + 1) (by omega))
      rw [hrest] at hfound
      exact hfound

theorem exists_ofOrdinal (year : Int) (ordinal : Nat) (hyear : minYear ≤ year ∧ year ≤ maxYear)
    (hordinal : 1 ≤ ordinal ∧ ordinal ≤ daysInYear year) :
    ∃ d, ofOrdinal? year ordinal = some d ∧ d.year = year ∧ d.ordinal = ordinal := by
  have hfirst : daysBeforeMonth year 1 = 0 := rfl
  obtain ⟨hleast, hmost, hday, hfits, hplace⟩ := monthAndDay_spec year 11 1 ordinal (by decide)
    rfl hordinal.1 (by omega)
  have hisDay : IsDay year (monthAndDay year 1 ordinal 11).1 (monthAndDay year 1 ordinal 11).2 :=
    ⟨hyear.1, hyear.2, hleast, hmost, hday, hfits⟩
  refine ⟨⟨year, _, _, hisDay⟩, dif_pos hisDay, rfl, ?_⟩
  rw [Date.ordinal, hplace, hfirst, Nat.zero_add]

theorem daysBeforeMonth_le (year : Int) (month more : Nat) (h : 1 ≤ month) :
    daysBeforeMonth year month ≤ daysBeforeMonth year (month + more) := by
  induction more with
  | zero => exact Nat.le_refl _
  | succ more ih =>
    have hsucc := daysBeforeMonth_succ year (month + more) (by omega)
    rw [← Nat.add_assoc, hsucc]
    omega

theorem ordinal_bounds (d : Date) : 1 ≤ d.ordinal ∧ d.ordinal ≤ daysInYear d.year := by
  obtain ⟨_, _, hmonth, hlast, hday, hfits⟩ := d.isDay
  have hsucc := daysBeforeMonth_succ d.year d.month hmonth
  have hle := daysBeforeMonth_le d.year (d.month + 1) (12 - d.month) (by omega)
  have hthirteen : d.month + 1 + (12 - d.month) = 13 := by omega
  rw [hthirteen, daysBeforeMonth_thirteen] at hle
  rw [ordinal]
  omega

/-! ### The days before a year -/

theorem daysBeforeYear_succ (year : Int) :
    daysBeforeYear (year + 1) = daysBeforeYear year + daysInYear year := by
  have hleap := isLeapYear_iff year
  simp only [daysBeforeYear, daysInYear]
  split
  · rename_i hyear
    rw [hleap] at hyear
    omega
  · rename_i hyear
    rw [hleap] at hyear
    omega

theorem daysBeforeYear_le {first second : Int} (h : first ≤ second) :
    daysBeforeYear first ≤ daysBeforeYear second := by
  simp only [daysBeforeYear]
  omega

section

variable (era : Int) (centuries cycles years : Nat) (hcenturies : centuries ≤ 3)
  (hcycles : cycles ≤ 24) (hyears : years ≤ 3)

include hcenturies hcycles hyears

theorem daysBeforeYear_cut :
    daysBeforeYear (400 * era + 100 * centuries + 4 * cycles + years + 1) =
      146097 * era + 36524 * centuries + 1461 * cycles + 365 * years := by
  simp only [daysBeforeYear]
  omega

/-- The last of four years is a leap year, but of the last four of a century only at its end. -/
theorem isLeapYear_cut :
    isLeapYear (400 * era + 100 * centuries + 4 * cycles + years + 1) = true ↔
      years = 3 ∧ (cycles < 24 ∨ centuries = 3) := by
  rw [isLeapYear_iff]
  omega

end

theorem yearAndOrdinal_spec (number : Int) :
    let found := yearAndOrdinal number
    1 ≤ found.2 ∧ found.2 ≤ daysInYear found.1 ∧
      daysBeforeYear found.1 + (found.2 - 1 : Nat) - epoch = number := by
  simp only [yearAndOrdinal]
  generalize hera : (number + epoch) / 146097 = era
  generalize hinEra : ((number + epoch) % 146097).toNat = inEra
  generalize hcenturies : min (inEra / 36524) 3 = centuries
  generalize hinCentury : inEra - centuries * 36524 = inCentury
  generalize hcycles : inCentury / 1461 = cycles
  generalize hinCycle : inCentury - cycles * 1461 = inCycle
  generalize hyears : min (inCycle / 365) 3 = years
  -- Each cut leaves less than a whole of its kind, but for the day at the end of a last one.
  have hnumber : number + epoch = 146097 * era + inEra := by omega
  have hcentury : inEra = 36524 * centuries + inCentury ∧ centuries ≤ 3 ∧ inCentury ≤ 36524 ∧
      (inCentury = 36524 → centuries = 3) := by omega
  have hcycle : inCentury = 1461 * cycles + inCycle ∧ cycles ≤ 24 ∧ inCycle ≤ 1460 ∧
      (inCycle = 1460 → cycles < 24 ∨ inCentury = 36524) := by omega
  have hyear : years ≤ 3 ∧ 365 * years ≤ inCycle ∧ inCycle - years * 365 ≤ 365 ∧
      (inCycle - years * 365 = 365 → years = 3 ∧ inCycle = 1460) := by omega
  have hbefore := daysBeforeYear_cut era centuries cycles years hcentury.2.1 hcycle.2.1 hyear.1
  have hleap := isLeapYear_cut era centuries cycles years hcentury.2.1 hcycle.2.1 hyear.1
  refine ⟨by omega, ?_, ?_⟩
  · unfold daysInYear
    split
    · omega
    · rename_i hcommon
      have hshort : inCycle - years * 365 ≠ 365 := by
        intro hlast
        obtain ⟨hthird, hend⟩ := hyear.2.2.2 hlast
        exact hcommon (hleap.mpr ⟨hthird, (hcycle.2.2.2 hend).imp_right hcentury.2.2.2⟩)
      omega
  · rw [hbefore]
    omega

theorem exists_ofDayNumber (number : Int) (hfirst : daysBeforeYear minYear - epoch ≤ number)
    (hlast : number < daysBeforeYear (maxYear + 1) - epoch) :
    ∃ d, ofDayNumber? number = some d ∧ d.dayNumber = number := by
  obtain ⟨hleast, hmost, hnumber⟩ := yearAndOrdinal_spec number
  have hnext := daysBeforeYear_succ (yearAndOrdinal number).1
  have hminYear : minYear ≤ (yearAndOrdinal number).1 := by
    apply Int.not_lt.mp
    intro hbefore
    have hle := daysBeforeYear_le (Int.add_one_le_of_lt hbefore)
    omega
  have hmaxYear : (yearAndOrdinal number).1 ≤ maxYear := by
    apply Int.not_lt.mp
    intro hafter
    have hle := daysBeforeYear_le (Int.add_one_le_of_lt hafter)
    omega
  obtain ⟨d, hd, hyear, hordinal⟩ := exists_ofOrdinal _ _ ⟨hminYear, hmaxYear⟩ ⟨hleast, hmost⟩
  refine ⟨d, hd, ?_⟩
  rw [dayNumber, hyear, hordinal, hnumber]

theorem dayNumber_bounds (d : Date) :
    daysBeforeYear d.year - epoch ≤ d.dayNumber ∧
      d.dayNumber < daysBeforeYear (d.year + 1) - epoch := by
  obtain ⟨hleast, hmost⟩ := d.ordinal_bounds
  rw [daysBeforeYear_succ, dayNumber]
  omega

/-- Away from the ends of the calendar the days up to a year before or after are days of the
calendar. -/
theorem exists_ofDayNumber_near (d : Date) (hfirst : minYear < d.year) (hlast : d.year < maxYear)
    (number : Int) (hnear : (number - d.dayNumber).natAbs ≤ 365) :
    ∃ e, ofDayNumber? number = some e := by
  obtain ⟨hleast, hmost⟩ := d.dayNumber_bounds
  have hbefore := daysBeforeYear_succ minYear
  have hminLength := daysInYear_bounds minYear
  have hminYear := daysBeforeYear_le (Int.add_one_le_of_lt hfirst)
  have hafter := daysBeforeYear_succ maxYear
  have hmaxLength := daysInYear_bounds maxYear
  have hmaxYear := daysBeforeYear_le (Int.add_one_le_of_lt hlast)
  obtain ⟨e, he, _⟩ := exists_ofDayNumber number (by omega) (by omega)
  exact ⟨e, he⟩

end Date

/-! ### Days in UTC -/

theorem TimeOfDay.seconds_lt (t : TimeOfDay) : t.seconds < 86400 := by
  have hhour := t.hour_lt
  have hminute := t.minute_lt
  have hsecond := t.second_lt
  rw [seconds]
  omega

/-- Away from the ends of the calendar the day in UTC, one off at most, is a day of the
calendar. -/
theorem Timestamp.ofLocal?_clock (t : Timestamp) (hfirst : minYear < t.clock.date.year)
    (hlast : t.clock.date.year < maxYear) : ofLocal? t.clock t.offset = some t := by
  have hoffset := t.offset_lt
  have hseconds := t.clock.time.seconds_lt
  obtain ⟨d, hd⟩ := t.clock.date.exists_ofDayNumber_near hfirst hlast
    ((t.clock.seconds - t.offset) / 86400) (by rw [LocalTime.seconds]; omega)
  rw [ofLocal?, dif_pos hoffset, hd, Option.map_some]

end Fieldwise.Calendar
