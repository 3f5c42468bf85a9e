/-!
# Days of the proleptic Gregorian calendar

A date is a year between -262143 and 262142, a month and a day that the month
has in that year. Days are also numbered through, from 1970-01-01 on; the number
gives the day of the week, and ordinals and week numbers are derived from it.
-/

namespace Fieldwise.Calendar

/-! ### The rule of the calendar -/

/-- A leap year. -/
def isLeapYear (year : Int) : Bool :=
  year % 4 == 0 && (year % 100 != 0 || year % 400 == 0)

/-- The number of days of a month, `1` to `12`. -/
def daysInMonth (year : Int) (month : Nat) : Nat :=
  if month = 2 then (if isLeapYear year then 29 else 28)
  else if month = 4 ∨ month = 6 ∨ month = 9 ∨ month = 11 then 30
  else 31

def daysInYear (year : Int) : Nat := if isLeapYear year then 366 else 365

/-- The first and the last year. -/
def minYear : Int := -262143
def maxYear : Int := 262142

/-- A year, month and day that a date can have. -/
def IsDay (year : Int) (month day : Nat) : Prop :=
  minYear ≤ year ∧ year ≤ maxYear ∧ 1 ≤ month ∧ month ≤ 12 ∧ 1 ≤ day ∧
    day ≤ daysInMonth year month

instance (year : Int) (month day : Nat) : Decidable (IsDay year month day) :=
  inferInstanceAs (Decidable (_ ∧ _))

/-- A day of the calendar. -/
structure Date where
  year : Int
  month : Nat
  day : Nat
  isDay : IsDay year month day
deriving DecidableEq

namespace Date

/-- The date with this year, month and day, if there is one. -/
def ofYmd? (year : Int) (month day : Nat) : Option Date :=
  if h : IsDay year month day then some ⟨year, month, day, h⟩ else none

theorem ofYmd?_eq_some_iff {year : Int} {month day : Nat} {d : Date} :
    ofYmd? year month day = some d ↔ d.year = year ∧ d.month = month ∧ d.day = day := by
  unfold ofYmd?
  split
  · rename_i h
    constructor
    · rintro ⟨rfl⟩
      exact ⟨rfl, rfl, rfl⟩
    · rintro ⟨rfl, rfl, rfl⟩
      rfl
  · rename_i h
    constructor
    · intro h'
      cases h'
    · rintro ⟨rfl, rfl, rfl⟩
      exact absurd d.isDay h

/-! ### The day of the year -/

/-- The number of days before the first of a month. -/
def daysBeforeMonth (year : Int) : (month : Nat) → Nat
  | 0 => 0
  | 1 => 0
  | month + 2 => daysBeforeMonth year (month + 1) + daysInMonth year (month + 1)

/-- The number of the day in its year, from 1. -/
def ordinal (d : Date) : Nat := daysBeforeMonth d.year d.month + d.day

/-- The month and day of a day of the year, counted from `month` on. -/
def monthAndDay (year : Int) (month : Nat) (day : Nat) : (left : Nat) → Nat × Nat
  | 0 => (month, day)
  | left + 1 =>
    if day ≤ daysInMonth year month then (month, day)
    else monthAndDay year (month + 1) (day - daysInMonth year month) left

/-- The date with this number in a year, if there is one. -/
def ofOrdinal? (year : Int) (ordinal : Nat) : Option Date :=
  let (month, day) := monthAndDay year 1 ordinal 11
  ofYmd? year month day

/-- The quarter of the year, from 1. -/
def quarter (d : Date) : Nat := (d.month - 1) / 3 + 1

/-! ### Days numbered through -/

/-- The number of days before the first of January of a year, from 0001-01-01. -/
def daysBeforeYear (year : Int) : Int :=
  let y := year - 1
  365 * y + y / 4 - y / 100 + y / 400

/-- The number of 1970-01-01, counted from 0001-01-01. -/
def epoch : Int := 719162

/-- The number of the day, where 1970-01-01 is 0. -/
def dayNumber (d : Date) : Int := daysBeforeYear d.year + (d.ordinal - 1 : Nat) - epoch

/-- The year of a day number and the number of the day in the year, by cutting
off 400, 100, 4 and single years. -/
def yearAndOrdinal (number : Int) : Int × Nat :=
  let n := number + epoch
  let era := n / 146097
  let inEra := (n % 146097).toNat
  let centuries := min (inEra / 36524) 3
  let inCentury := inEra - centuries * 36524
  let cycles := inCentury / 1461
  let inCycle := inCentury - cycles * 1461
  let years := min (inCycle / 365) 3
  (400 * era + 100 * centuries + 4 * cycles + years + 1, inCycle - years * 365 + 1)

/-- The date with a day number, if its year is in range. -/
def ofDayNumber? (number : Int) : Option Date :=
  let (year, ordinal) := yearAndOrdinal number
  ofOrdinal? year ordinal

end Date

/-! ### Weeks -/

/-- A day of the week. -/
inductive Weekday
  | monday | tuesday | wednesday | thursday | friday | saturday | sunday
deriving DecidableEq, Repr

namespace Weekday

def all : List Weekday := [monday, tuesday, wednesday, thursday, friday, saturday, sunday]

/-- The number of days since Monday. -/
def index : Weekday → Nat
  | monday => 0 | tuesday => 1 | wednesday => 2 | thursday => 3 | friday => 4
  | saturday => 5 | sunday => 6

/-- The day that comes `n` days after Monday. -/
def ofIndex (n : Nat) : Weekday := all.getD (n % 7) monday

/-- The number of days since the last `start`. -/
def daysSince (d start : Weekday) : Nat := (d.index + 7 - start.index) % 7

end Weekday

/-- The day of the week of a day number; 1970-01-01 was a Thursday. -/
def weekdayOf (number : Int) : Weekday := .ofIndex ((number + 3) % 7).toNat

namespace Date

def weekday (d : Date) : Weekday := weekdayOf d.dayNumber

/-- The number of the week in the year, where week 1 begins with the first
`start` and the days before it are week 0. -/
def weekFrom (d : Date) (start : Weekday) : Nat :=
  (d.ordinal + 6 - d.weekday.daysSince start) / 7

/-- The year and number of the week of a day number, where a week begins on
Monday and belongs to the year of its Thursday. -/
def isoWeekOf (number : Int) : Int × Nat :=
  let thursday := number - (weekdayOf number).index + 3
  let (year, ordinal) := yearAndOrdinal thursday
  (year, (ordinal - 1) / 7 + 1)

/-- The year and number of the week, where a week begins on Monday and belongs
to the year of its Thursday. -/
def isoWeek (d : Date) : Int × Nat := isoWeekOf d.dayNumber

/-- The date of a day of such a week, if the year has the week. -/
def ofIsoWeek? (year : Int) (week : Nat) (day : Weekday) : Option Date :=
  let fourth := daysBeforeYear year + 3 - epoch
  let number := fourth - (weekdayOf fourth).index + 7 * (week - 1 : Int) + day.index
  if week ≠ 0 ∧ isoWeekOf number = (year, week) then ofDayNumber? number else none

/-- The date of a day of the week in a week counted from the first `start`, if
the year has it. -/
def ofWeek? (year : Int) (week : Nat) (day start : Weekday) : Option Date :=
  let first := weekdayOf (daysBeforeYear year - epoch)
  let ordinal : Int := 1 + start.daysSince first + (week - 1 : Int) * 7 + day.daysSince start
  if 0 < ordinal then ofOrdinal? year ordinal.toNat else none

end Date

end Fieldwise.Calendar
