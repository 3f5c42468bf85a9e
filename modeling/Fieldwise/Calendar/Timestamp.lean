import Fieldwise.Calendar.Date
import Fieldwise.Number.Integer

/-!
# Points in time

A timestamp is a local date and time of day with an offset from UTC. A leap
second is the second before it with a thousand million nanoseconds more. Two
timestamps are compared as instants: by the count of UTC seconds, then by the
nanoseconds. The written form is RFC 3339, with as many digits of the fraction,
in groups of three, as it needs.
-/

namespace Fieldwise.Calendar

/-! ### Times of day -/

/-- A time of day; `nano` reaches two thousand million inside a leap second. -/
structure TimeOfDay where
  hour : Nat
  minute : Nat
  second : Nat
  nano : Nat
  hour_lt : hour < 24
  minute_lt : minute < 60
  second_lt : second < 60
  nano_lt : nano < 2000000000
deriving DecidableEq

namespace TimeOfDay

/-- The time with these parts, if they are in range. -/
def ofParts? (hour minute second nano : Nat) : Option TimeOfDay :=
  if h : hour < 24 ∧ minute < 60 ∧ second < 60 ∧ nano < 2000000000 then
    some ⟨hour, minute, second, nano, h.1, h.2.1, h.2.2.1, h.2.2.2⟩
  else none

def midnight : TimeOfDay := ⟨0, 0, 0, 0, by decide, by decide, by decide, by decide⟩

/-- The number of seconds since midnight. -/
def seconds (t : TimeOfDay) : Nat := t.hour * 3600 + t.minute * 60 + t.second

/-- The time that many seconds after midnight, counted modulo a day. -/
def ofSeconds (seconds nano : Nat) (h : nano < 2000000000) : TimeOfDay :=
  ⟨seconds / 3600 % 24, seconds / 60 % 60, seconds % 60, nano,
    Nat.mod_lt _ (by decide), Nat.mod_lt _ (by decide), Nat.mod_lt _ (by decide), h⟩

end TimeOfDay

/-! ### Local dates and times -/

/-- A date and a time of day, with no offset. -/
structure LocalTime where
  date : Date
  time : TimeOfDay
deriving DecidableEq

namespace LocalTime

/-- The number of seconds since 1970-01-01T00:00:00 of the same clock. -/
def seconds (t : LocalTime) : Int := t.date.dayNumber * 86400 + t.time.seconds

/-- The local time that many seconds after 1970-01-01T00:00:00, if its date is in
range. -/
def ofSeconds? (seconds : Int) (nano : Nat) (h : nano < 2000000000) : Option LocalTime :=
  (Date.ofDayNumber? (seconds / 86400)).map fun date =>
    ⟨date, .ofSeconds (seconds % 86400).toNat nano h⟩

end LocalTime

/-- The first day of the epoch. -/
def Date.epochDay : Date := ⟨1970, 1, 1, by decide⟩

/-! ### Timestamps -/

/-- A point in time: the local date and time, and the seconds that the local
clock is ahead of UTC, less than a day either way. -/
structure Timestamp where
  clock : LocalTime
  offset : Int
  offset_lt : offset.natAbs < 86400
deriving DecidableEq

namespace Timestamp

/-- The count of UTC seconds since 1970-01-01T00:00:00Z. -/
def seconds (t : Timestamp) : Int := t.clock.seconds - t.offset

def nano (t : Timestamp) : Nat := t.clock.time.nano

/-- A local time read as UTC. -/
def utc (clock : LocalTime) : Timestamp := ⟨clock, 0, by decide⟩

/-- The timestamp with this local time and offset, if the offset is less than a
day and the date in UTC is in range. -/
def ofLocal? (clock : LocalTime) (offset : Int) : Option Timestamp :=
  if h : offset.natAbs < 86400 then
    (Date.ofDayNumber? ((clock.seconds - offset) / 86400)).map fun _ => ⟨clock, offset, h⟩
  else none

/-- The same instant at offset zero, if its date is in range. -/
def toUtc? (t : Timestamp) : Option Timestamp :=
  (LocalTime.ofSeconds? t.seconds t.nano t.clock.time.nano_lt).map utc

/-- Strictly later, as an instant. -/
def isAfter (a b : Timestamp) : Bool :=
  b.seconds < a.seconds || (a.seconds == b.seconds && b.nano < a.nano)

/-- Strictly earlier, as an instant. -/
def isBefore (a b : Timestamp) : Bool :=
  a.seconds < b.seconds || (a.seconds == b.seconds && a.nano < b.nano)

/-! ### The written form -/

/-- The decimal form, with zeros before it up to `width` digits. -/
def padded (width n : Nat) : List Char :=
  List.replicate (width - (Number.natural n).length) '0' ++ Number.natural n

/-- The year: four digits from 0 to 9999, else a sign and at least four. -/
def yearChars (year : Int) : List Char :=
  if 0 ≤ year ∧ year ≤ 9999 then padded 4 year.toNat
  else (if year < 0 then '-' else '+') :: padded 4 year.natAbs

/-- The fraction of a second: nothing, or a point and the least of three, six and
nine digits that is exact. -/
def fractionChars (nano : Nat) : List Char :=
  if nano = 0 then []
  else if nano % 1000000 = 0 then '.' :: padded 3 (nano / 1000000)
  else if nano % 1000 = 0 then '.' :: padded 6 (nano / 1000)
  else '.' :: padded 9 nano

/-- The offset: `Z` for none, else a sign, hours and minutes, where seconds are
rounded to the nearest minute, a half minute away from zero. -/
def offsetChars (offset : Int) : List Char :=
  if offset = 0 then ['Z']
  else
    let minutes := (offset.natAbs + 30) / 60
    (if offset < 0 then '-' else '+') :: (padded 2 (minutes / 60) ++ ':' :: padded 2 (minutes % 60))

/-- The date, as `year-month-day`. -/
def dateChars (d : Date) : List Char :=
  yearChars d.year ++ '-' :: (padded 2 d.month ++ '-' :: padded 2 d.day)

/-- The time of day, as `hour:minute:second` and a fraction; a leap second is
written as second 60. -/
def timeChars (t : TimeOfDay) : List Char :=
  let leap := 1000000000 ≤ t.nano
  padded 2 t.hour ++ ':' :: (padded 2 t.minute ++ ':' ::
    (padded 2 (if leap then t.second + 1 else t.second) ++
      fractionChars (if leap then t.nano - 1000000000 else t.nano)))

def chars (t : Timestamp) : List Char :=
  dateChars t.clock.date ++ 'T' :: (timeChars t.clock.time ++ offsetChars t.offset)

/-- The written form of a timestamp, as a string. -/
def toText (t : Timestamp) : String := String.ofList t.chars

theorem isBefore_eq_isAfter (a b : Timestamp) : a.isBefore b = b.isAfter a := by
  have comm : (a.seconds == b.seconds) = (b.seconds == a.seconds) := by
    rw [Bool.eq_iff_iff, beq_iff_eq, beq_iff_eq]
    exact eq_comm
  simp only [isBefore, isAfter, comm]

end Timestamp

end Fieldwise.Calendar
