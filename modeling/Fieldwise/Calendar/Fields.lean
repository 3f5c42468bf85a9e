import Fieldwise.Calendar.Timestamp

/-!
# Fields of a date and time, and what they determine

Reading a text with a layout collects fields: a year here, a minute there. A
field is set once; a second setting has to agree with the first. Afterwards the
fields are resolved: they must determine a date, a time, a local time or a
timestamp, and every field that was not needed for that has to agree with it.
-/

namespace Fieldwise.Calendar

/-! ### Why a text does not give a point in time -/

/-- A reason to refuse a text. -/
inductive ReadError
  | outOfRange
  | impossible
  | notEnough
  | invalid
  | tooShort
  | tooLong
  | badLayout
deriving DecidableEq, Repr

def ReadError.message : ReadError → String
  | outOfRange => "input is out of range"
  | impossible => "no possible date and time matching input"
  | notEnough => "input is not enough for unique date and time"
  | invalid => "input contains invalid characters"
  | tooShort => "premature end of input"
  | tooLong => "trailing input"
  | badLayout => "bad or unsupported format string"

/-! ### Fields -/

/-- The fields collected so far. The clock hour is kept as the half of the day
and the hour in it, as either may be given alone. -/
structure Fields where
  year : Option Int := none
  century : Option Int := none
  yearOfCentury : Option Int := none
  isoYear : Option Int := none
  isoYearOfCentury : Option Int := none
  quarter : Option Nat := none
  month : Option Nat := none
  weekFromSunday : Option Nat := none
  weekFromMonday : Option Nat := none
  isoWeek : Option Nat := none
  weekday : Option Weekday := none
  ordinal : Option Nat := none
  day : Option Nat := none
  afternoon : Option Bool := none
  hourOfHalf : Option Nat := none
  minute : Option Nat := none
  second : Option Nat := none
  nano : Option Nat := none
  timestamp : Option Int := none
  offset : Option Int := none
deriving DecidableEq

/-- A field that is given as a number. -/
inductive NumberField
  | year | century | yearOfCentury | isoYear | isoYearOfCentury | quarter | month | day
  | weekFromSunday | weekFromMonday | isoWeek | weekdayFromSunday | weekdayFromMonday | ordinal
  | hour | hour12 | minute | second | nano | timestamp | offset
deriving DecidableEq, Repr

/-- A setting of a field: it agrees with an earlier one or is the first. -/
def agree {α : Type} [DecidableEq α] (old : Option α) (value : α) :
    Except ReadError (Option α) :=
  match old with
  | none => .ok (some value)
  | some earlier => if earlier = value then .ok (some value) else .error .impossible

/-- The value, if it lies between the bounds. -/
def inRange (low high value : Int) : Except ReadError Int :=
  if low ≤ value ∧ value ≤ high then .ok value else .error .outOfRange

/-- The value as a natural, if it lies between the bounds. -/
def natInRange (low high : Nat) (value : Int) : Except ReadError Nat :=
  (inRange low high value).map Int.toNat

namespace Fields

def setAfternoon (f : Fields) (afternoon : Bool) : Except ReadError Fields := do
  return { f with afternoon := ← agree f.afternoon afternoon }

def setWeekday (f : Fields) (day : Weekday) : Except ReadError Fields := do
  return { f with weekday := ← agree f.weekday day }

/-- Sets a field that is given as a number, after a check of its range. -/
def set (f : Fields) (field : NumberField) (value : Int) : Except ReadError Fields := do
  match field with
  | .year => return { f with year := ← agree f.year (← inRange (-2147483648) 2147483647 value) }
  | .century => return { f with century := ← agree f.century (← inRange 0 2147483647 value) }
  | .yearOfCentury =>
    return { f with yearOfCentury := ← agree f.yearOfCentury (← inRange 0 99 value) }
  | .isoYear =>
    return { f with isoYear := ← agree f.isoYear (← inRange (-2147483648) 2147483647 value) }
  | .isoYearOfCentury =>
    return { f with isoYearOfCentury := ← agree f.isoYearOfCentury (← inRange 0 99 value) }
  | .quarter => return { f with quarter := ← agree f.quarter (← natInRange 1 4 value) }
  | .month => return { f with month := ← agree f.month (← natInRange 1 12 value) }
  | .day => return { f with day := ← agree f.day (← natInRange 1 31 value) }
  | .weekFromSunday =>
    return { f with weekFromSunday := ← agree f.weekFromSunday (← natInRange 0 53 value) }
  | .weekFromMonday =>
    return { f with weekFromMonday := ← agree f.weekFromMonday (← natInRange 0 53 value) }
  | .isoWeek => return { f with isoWeek := ← agree f.isoWeek (← natInRange 1 53 value) }
  | .weekdayFromSunday => f.setWeekday (.ofIndex ((← natInRange 0 6 value) + 6))
  | .weekdayFromMonday => f.setWeekday (.ofIndex ((← natInRange 1 7 value) - 1))
  | .ordinal => return { f with ordinal := ← agree f.ordinal (← natInRange 1 366 value) }
  | .hour =>
    let hour ← natInRange 0 23 value
    let afternoon ← agree f.afternoon (12 ≤ hour)
    return { f with afternoon, hourOfHalf := ← agree f.hourOfHalf (hour % 12) }
  | .hour12 =>
    return { f with hourOfHalf := ← agree f.hourOfHalf ((← natInRange 1 12 value) % 12) }
  | .minute => return { f with minute := ← agree f.minute (← natInRange 0 59 value) }
  | .second => return { f with second := ← agree f.second (← natInRange 0 60 value) }
  | .nano => return { f with nano := ← agree f.nano (← natInRange 0 999999999 value) }
  | .timestamp => return { f with timestamp := ← agree f.timestamp value }
  | .offset =>
    return { f with offset := ← agree f.offset (← inRange (-2147483648) 2147483647 value) }

/-! ### The date -/

/-- The year that a full year, a century and a year of the century give together,
if any. Two digits alone are a year from 1970 to 2069. -/
def resolveYear : (year century ofCentury : Option Int) → Except ReadError (Option Int)
  | year, none, none => .ok year
  | some year, century, ofCentury =>
    if 0 ≤ year ∧ century.getD (year / 100) = year / 100 ∧
        ofCentury.getD (year % 100) = year % 100
    then .ok (some year)
    else .error .impossible
  | none, some century, some ofCentury =>
    if century * 100 + ofCentury ≤ 2147483647 then .ok (some (century * 100 + ofCentury))
    else .error .outOfRange
  | none, none, some ofCentury => .ok (some (ofCentury + if ofCentury < 70 then 2000 else 1900))
  | none, some _, none => .error .notEnough

def fits {α : Type} [DecidableEq α] (given : Option α) (value : α) : Bool :=
  given.all (· == value)

/-- A century that is absent, or is that of a year; no year before 0 has one. -/
def fitsPart (given : Option Int) (year part : Int) : Bool :=
  given.all fun g => decide (0 ≤ year) && g == part

/-- The year, month and day of the fields are those of the date. -/
def fitsYmd (f : Fields) (d : Date) : Bool :=
  fits f.year d.year && fitsPart f.century d.year (d.year / 100) &&
    fitsPart f.yearOfCentury d.year (d.year % 100) && fits f.month d.month && fits f.day d.day

/-- The week of the fields, counted as in ISO 8601, is that of the date. -/
def fitsIsoWeek (f : Fields) (d : Date) : Bool :=
  fits f.isoYear d.isoWeek.1 &&
    fitsPart f.isoYearOfCentury d.isoWeek.1 (d.isoWeek.1 % 100) &&
    fits f.isoWeek d.isoWeek.2 && fits f.weekday d.weekday

/-- The day of the year and the weeks of the year are those of the date. -/
def fitsOrdinal (f : Fields) (d : Date) : Bool :=
  fits f.ordinal d.ordinal && fits f.weekFromSunday (d.weekFrom .sunday) &&
    fits f.weekFromMonday (d.weekFrom .monday)

/-- The date that a week of the year and a day of the week give; weeks begin with
the first `start` of the year. -/
def weekDate (year : Int) (week : Nat) (day start : Weekday) : Except ReadError Date :=
  if year < minYear ∨ maxYear < year then .error .outOfRange
  else match Date.ofWeek? year week day start with
    | some d => .ok d
    | none => .error .impossible

/-- A date, if it is one. -/
def dated : Option Date → Except ReadError Date
  | some d => .ok d
  | none => .error .outOfRange

/-- The first set of fields that determines a date gives it: year, month and day;
year and ordinal; year, week and day of the week with weeks from Sunday, then
from Monday; year, week and day of ISO 8601. Gives the date, and whether the
other fields agree with it. -/
def candidate (f : Fields) : Except ReadError (Date × Bool) := do
  let year ← resolveYear f.year f.century f.yearOfCentury
  let isoYear ← resolveYear f.isoYear none f.isoYearOfCentury
  let all (d : Date) := f.fitsYmd d && f.fitsIsoWeek d && f.fitsOrdinal d
  match year, isoYear, f with
  | some year, _, { month := some month, day := some day, .. } =>
    let d ← dated (Date.ofYmd? year month day)
    return (d, f.fitsIsoWeek d && f.fitsOrdinal d)
  | some year, _, { ordinal := some ordinal, .. } =>
    let d ← dated (Date.ofOrdinal? year ordinal)
    return (d, all d)
  | some year, _, { weekFromSunday := some week, weekday := some day, .. } =>
    let d ← weekDate year week day .sunday
    return (d, all d)
  | some year, _, { weekFromMonday := some week, weekday := some day, .. } =>
    let d ← weekDate year week day .monday
    return (d, all d)
  | _, some isoYear, { isoWeek := some week, weekday := some day, .. } =>
    let d ← dated (Date.ofIsoWeek? isoYear week day)
    return (d, f.fitsYmd d && f.fitsOrdinal d)
  | _, _, _ => .error .notEnough

def date (f : Fields) : Except ReadError Date := do
  let (d, agrees) ← f.candidate
  if agrees && fits f.quarter d.quarter then return d else .error .impossible

/-! ### The time of day -/

def need {α : Type} : Option α → Except ReadError α
  | some a => .ok a
  | none => .error .notEnough

/-- The time that the fields determine. Seconds may be left out, and then the
fraction has to be too; second 60 is the leap second after second 59. -/
def time (f : Fields) : Except ReadError TimeOfDay := do
  let afternoon ← need f.afternoon
  let hourOfHalf ← need f.hourOfHalf
  let minute ← need f.minute
  let second := f.second.getD 0
  if f.nano.isSome ∧ f.second.isNone then .error .notEnough
  else
    let nano := f.nano.getD 0 + if second = 60 then 1000000000 else 0
    let hour := (if afternoon then 12 else 0) + hourOfHalf
    match TimeOfDay.ofParts? hour minute (min second 59) nano with
    | some t => return t
    | none => .error .outOfRange

/-! ### Local times and timestamps -/

/-- The fields with the date and the clock filled in from a count of seconds. A
leap second has the count of the second before it or of the one after it. -/
def fillFrom (f : Fields) (seconds : Int) : Except ReadError Fields := do
  let clock (seconds : Int) : Except ReadError LocalTime :=
    match LocalTime.ofSeconds? seconds 0 (Nat.zero_lt_succ _) with
    | some t => .ok t
    | none => .error .outOfRange
  let t ← clock seconds
  let (f, t) ←
    if f.second = some 60 then
      if t.time.second = 59 then pure (f, t)
      else if t.time.second = 0 then pure (f, ← clock (seconds - 1))
      else .error .impossible
    else pure (← f.set .second t.time.second, t)
  let f ← f.set .year t.date.year
  let f ← f.set .ordinal t.date.ordinal
  let f ← f.set .hour t.time.hour
  f.set .minute t.time.minute

def refusedAs {α : Type} (reason : ReadError) : Except ReadError α → Bool
  | .error e => e == reason
  | .ok _ => false

/-- The local time at an offset that the fields determine: by date and time,
which a count of seconds has to agree with, or by a count of seconds, which
the other fields have to agree with. -/
def localTime (f : Fields) (offset : Int) : Except ReadError LocalTime :=
  match f.date, f.time, f.timestamp with
  | .ok date, .ok time, given =>
    let clock : LocalTime := ⟨date, time⟩
    let seconds := clock.seconds - offset
    let leap := 1000000000 ≤ time.nano
    if given.all fun g => g == seconds || (leap && g == seconds + 1) then .ok clock
    else .error .impossible
  | date, time, some seconds => do
    if refusedAs .outOfRange date || refusedAs .outOfRange time then .error .outOfRange
    else if refusedAs .impossible date || refusedAs .impossible time then .error .impossible
    else
      let f ← f.fillFrom (seconds + offset)
      return ⟨← f.date, ← f.time⟩
  | date, time, none => do return ⟨← date, ← time⟩

/-- The timestamp that the fields determine: an offset has to be given, or a
count of seconds, which is in UTC. -/
def zoned (f : Fields) : Except ReadError Timestamp := do
  let offset ← match f.offset, f.timestamp with
    | some offset, _ => pure offset
    | none, some _ => pure 0
    | none, none => .error .notEnough
  let clock ← f.localTime offset
  if 86400 ≤ offset.natAbs then .error .outOfRange
  else match Timestamp.ofLocal? clock offset with
    | some t => return t
    | none => .error .impossible

end Fields

end Fieldwise.Calendar
