import Fieldwise.Proofs.Calendar.Days
import Fieldwise.Proofs.Overrides
import Mathlib.Data.Prod.Lex
import Mathlib.Data.List.Lex

/-!
# Instants

Points in time are compared as instants: by the seconds of UTC, which are the days and the time of
the local clock less its offset, and then by the nanoseconds. Moved to a clock with another offset
a timestamp keeps its instant, and on clocks of one offset instants are in the order of what the
clocks show, from the year to the nanosecond. A lower and an upper bound in time that are the same
instant leave no room between them.
-/

namespace Fieldwise.Calendar

/-! ### The order of days -/

namespace Date

theorem dayNumber_lt_of_year {d e : Date} (h : d.year < e.year) : d.dayNumber < e.dayNumber := by
  have hbefore := d.dayNumber_bounds.2
  have hafter := e.dayNumber_bounds.1
  have hyears := daysBeforeYear_le (Int.add_one_le_of_lt h)
  omega

theorem ordinal_lt_of_month {d e : Date} (hyear : d.year = e.year) (h : d.month < e.month) :
    d.ordinal < e.ordinal := by
  obtain ⟨_, _, hmonth, _, _, hfits⟩ := d.isDay
  obtain ⟨_, _, _, _, hday, _⟩ := e.isDay
  have hsucc := daysBeforeMonth_succ d.year d.month hmonth
  have hle := daysBeforeMonth_le d.year (d.month + 1) (e.month - (d.month + 1)) (by omega)
  have hmonths : d.month + 1 + (e.month - (d.month + 1)) = e.month := by omega
  rw [hmonths] at hle
  rw [ordinal, ordinal, ← hyear]
  omega

theorem dayNumber_lt_of_ordinal {d e : Date} (hyear : d.year = e.year)
    (h : d.ordinal < e.ordinal) : d.dayNumber < e.dayNumber := by
  have hleast := d.ordinal_bounds.1
  rw [dayNumber, dayNumber, hyear]
  omega

theorem dayNumber_lt_iff (d e : Date) :
    d.dayNumber < e.dayNumber ↔
      d.year < e.year ∨ d.year = e.year ∧
        (d.month < e.month ∨ d.month = e.month ∧ d.day < e.day) := by
  have hlater : ∀ d e : Date, (d.year < e.year ∨ d.year = e.year ∧
      (d.month < e.month ∨ d.month = e.month ∧ d.day < e.day)) → d.dayNumber < e.dayNumber := by
    intro d e h
    rcases h with hyear | ⟨hyear, hmonth | ⟨hmonth, hday⟩⟩
    · exact dayNumber_lt_of_year hyear
    · exact dayNumber_lt_of_ordinal hyear (ordinal_lt_of_month hyear hmonth)
    · have hordinal : d.ordinal < e.ordinal := by
        rw [ordinal, ordinal, hyear, hmonth]
        omega
      exact dayNumber_lt_of_ordinal hyear hordinal
  refine ⟨fun h => ?_, hlater d e⟩
  -- Dates are in order or the same, so the numbers could not be in order otherwise.
  by_contra hnot
  have hother : d.dayNumber = e.dayNumber ∨ e.dayNumber < d.dayNumber := by
    by_cases hsame : d.year = e.year ∧ d.month = e.month ∧ d.day = e.day
    · left
      simp only [dayNumber, ordinal, hsame]
    · exact .inr (hlater e d (by omega))
  omega

theorem dayNumber_eq_iff (d e : Date) :
    d.dayNumber = e.dayNumber ↔ d.year = e.year ∧ d.month = e.month ∧ d.day = e.day := by
  have hbefore := dayNumber_lt_iff d e
  have hafter := dayNumber_lt_iff e d
  omega

theorem year_and_ordinal_of_ofOrdinal? {year : Int} {ordinal : Nat} {d : Date}
    (hordinal : 1 ≤ ordinal ∧ ordinal ≤ daysInYear year) (h : ofOrdinal? year ordinal = some d) :
    d.year = year ∧ d.ordinal = ordinal := by
  have hyear : d.year = year := (ofYmd?_eq_some_iff.mp h).1
  have hrange : minYear ≤ year ∧ year ≤ maxYear := hyear ▸ ⟨d.isDay.1, d.isDay.2.1⟩
  obtain ⟨found, hfound, hsame⟩ := exists_ofOrdinal year ordinal hrange hordinal
  rw [h] at hfound
  rw [Option.some.inj hfound]
  exact hsame

theorem dayNumber_of_ofDayNumber? {number : Int} {d : Date} (h : ofDayNumber? number = some d) :
    d.dayNumber = number := by
  obtain ⟨hleast, hmost, hnumber⟩ := yearAndOrdinal_spec number
  obtain ⟨hyear, hordinal⟩ := year_and_ordinal_of_ofOrdinal? ⟨hleast, hmost⟩ h
  rw [dayNumber, hyear, hordinal, hnumber]

end Date

/-! ### The order of local times -/

namespace LocalTime

/-- What the clock shows, the largest part first. -/
def parts (t : LocalTime) : List Int :=
  [t.date.year, t.date.month, t.date.day, t.time.hour, t.time.minute, t.time.second, t.time.nano]

theorem parts_lt_iff (s t : LocalTime) :
    s.parts < t.parts ↔ toLex (s.seconds, s.time.nano) < toLex (t.seconds, t.time.nano) := by
  have hdays := Date.dayNumber_lt_iff s.date t.date
  have hday := Date.dayNumber_eq_iff s.date t.date
  have hs := And.intro s.time.minute_lt s.time.second_lt
  have ht := And.intro t.time.minute_lt t.time.second_lt
  have hsday := s.time.seconds_lt
  have htday := t.time.seconds_lt
  simp only [TimeOfDay.seconds] at hsday htday
  simp only [parts, List.cons_lt_cons_iff, List.not_lt_nil, and_false, or_false,
    Prod.Lex.toLex_lt_toLex, seconds, TimeOfDay.seconds, Int.ofNat_lt, Int.natCast_inj]
  omega

theorem seconds_of_ofSeconds? {seconds : Int} {nano : Nat} {hnano : nano < 2000000000}
    {t : LocalTime} (h : ofSeconds? seconds nano hnano = some t) :
    t.seconds = seconds ∧ t.time.nano = nano := by
  obtain ⟨date, hdate, rfl⟩ := Option.map_eq_some_iff.mp h
  have hnumber := Date.dayNumber_of_ofDayNumber? hdate
  refine ⟨?_, rfl⟩
  simp only [LocalTime.seconds, hnumber, TimeOfDay.seconds, TimeOfDay.ofSeconds]
  omega

end LocalTime

/-! ### Timestamps -/

namespace Timestamp

/-- The count of UTC seconds since 1970-01-01T00:00:00Z, then the nanoseconds. -/
def instant (t : Timestamp) : Int ×ₗ Nat :=
  toLex (86400 * t.clock.date.dayNumber + 3600 * t.clock.time.hour + 60 * t.clock.time.minute +
    t.clock.time.second - t.offset, t.clock.time.nano)

theorem instant_eq (t : Timestamp) : t.instant = toLex (t.seconds, t.nano) := by
  have hseconds : 86400 * t.clock.date.dayNumber + 3600 * t.clock.time.hour +
      60 * t.clock.time.minute + t.clock.time.second - t.offset = t.seconds := by
    simp only [seconds, LocalTime.seconds, TimeOfDay.seconds]
    omega
  rw [instant, hseconds, nano]

theorem isAfter_iff (a b : Timestamp) : a.isAfter b = true ↔ b.instant < a.instant := by
  simp only [isAfter, instant_eq, Prod.Lex.toLex_lt_toLex, Bool.or_eq_true, Bool.and_eq_true,
    decide_eq_true_eq, beq_iff_eq, @eq_comm Int a.seconds]

theorem isAfter_congr {a a' b b' : Timestamp} (ha : a'.instant = a.instant)
    (hb : b'.instant = b.instant) : a'.isAfter b' = a.isAfter b := by
  rw [Bool.eq_iff_iff, isAfter_iff, isAfter_iff, ha, hb]

theorem nano_lt (t : Timestamp) : t.nano < 2000000000 := t.clock.time.nano_lt

/-- The same instant on a clock with another offset, if the date is in range there. -/
def atOffset? (t : Timestamp) (offset : Int) : Option Timestamp :=
  if h : offset.natAbs < 86400 then
    (LocalTime.ofSeconds? (t.seconds + offset) t.nano t.nano_lt).map
      fun clock => ⟨clock, offset, h⟩
  else none

theorem atOffset?_spec {t moved : Timestamp} {offset : Int}
    (h : t.atOffset? offset = some moved) :
    moved.instant = t.instant ∧ moved.offset = offset := by
  unfold atOffset? at h
  split at h
  · obtain ⟨clock, hclock, rfl⟩ := Option.map_eq_some_iff.mp h
    obtain ⟨hseconds, hnano⟩ := LocalTime.seconds_of_ofSeconds? hclock
    refine ⟨?_, rfl⟩
    simp only [instant_eq, seconds, nano, hseconds, hnano, Int.add_sub_cancel]
  · cases h

/-- Away from the ends of the calendar every clock shows the instant. -/
theorem exists_atOffset? (t : Timestamp) (offset : Int) (hoffset : offset.natAbs < 86400)
    (hfirst : minYear < t.clock.date.year) (hlast : t.clock.date.year < maxYear) :
    ∃ moved, t.atOffset? offset = some moved := by
  have hlt := t.offset_lt
  have hseconds := t.clock.time.seconds_lt
  obtain ⟨d, hd⟩ := t.clock.date.exists_ofDayNumber_near hfirst hlast
    ((t.seconds + offset) / 86400) (by rw [seconds, LocalTime.seconds]; omega)
  simp only [atOffset?, dif_pos hoffset, LocalTime.ofSeconds?, hd, Option.map_some]
  exact ⟨_, rfl⟩

theorem toUtc?_eq_atOffset? (t : Timestamp) : t.toUtc? = t.atOffset? 0 := by
  rw [toUtc?, atOffset?, dif_pos (by decide), Int.add_zero]
  rfl

/-- At one offset the later instant is the one whose clock shows more. -/
theorem isAfter_iff_parts {a b a' b' : Timestamp} {offset : Int}
    (ha : a.atOffset? offset = some a') (hb : b.atOffset? offset = some b') :
    a.isAfter b = true ↔ b'.clock.parts < a'.clock.parts := by
  obtain ⟨hainstant, haoffset⟩ := atOffset?_spec ha
  obtain ⟨hbinstant, hboffset⟩ := atOffset?_spec hb
  rw [isAfter_iff, ← hainstant, ← hbinstant, LocalTime.parts_lt_iff, instant_eq, instant_eq]
  simp only [Prod.Lex.toLex_lt_toLex, seconds, nano, haoffset, hboffset]
  omega

end Timestamp

end Fieldwise.Calendar

namespace Fieldwise

open Calendar (Date LocalTime TimeOfDay Timestamp minYear maxYear)

/-! ### Bounds in time -/

namespace Rule

theorem holds_after_iff (v : Value) (b : Timestamp) :
    (Rule.after b).Holds v ↔ ∀ t ∈ v.asTimestamp, b.instant < t.instant := by
  simp only [Holds, Timestamp.isAfter_iff]

theorem holds_before_iff (v : Value) (b : Timestamp) :
    (Rule.before b).Holds v ↔ ∀ t ∈ v.asTimestamp, t.instant < b.instant := by
  simp only [Holds, Timestamp.isBefore_eq_isAfter, Timestamp.isAfter_iff]

end Rule

namespace Constraints

variable (options : Options) (field : String) (b : Timestamp) (lower upper : Option String)

/-- What two bounds in time at one instant find wrong with a value. -/
def dueAround (v : Value) : List Violation :=
  (if (Rule.after b).Holds v then []
    else [⟨field, lower.getD (Rule.after b).template, "after"⟩]) ++
  if (Rule.before b).Holds v then []
  else [⟨field, upper.getD (Rule.before b).template, "before"⟩]

theorem value_check_around {constraints others : Constraints} {v : Value}
    (hboth : constraints.Perm (⟨.after b, lower⟩ :: ⟨.before b, upper⟩ :: others))
    (hfilled : v.isEmpty = false) :
    (check options field constraints (some v)).value.Perm
      (dueAround field b lower upper v ++ (check options field others (some v)).value) := by
  have hafter := value_check_alone options field (.after b) lower v hfilled not_false
  have hbefore := value_check_alone options field (.before b) upper v hfilled not_false
  rw [value_check_filled options field constraints hfilled,
    value_check_filled options field others hfilled]
  refine (hboth.flatMap_right _).trans (List.Perm.of_eq ?_)
  rw [List.flatMap_cons, List.flatMap_cons, hafter, hbefore, ← List.append_assoc]
  rfl

theorem codes_dueAround (a : Timestamp) :
    (dueAround field b lower upper (.timestamp a)).map Violation.code =
      if a.instant = b.instant then ["after", "before"]
      else if a.instant < b.instant then ["after"] else ["before"] := by
  have hafter : (Rule.after b).Holds (.timestamp a) ↔ b.instant < a.instant := by
    simp [Rule.holds_after_iff, Value.asTimestamp]
  have hbefore : (Rule.before b).Holds (.timestamp a) ↔ a.instant < b.instant := by
    simp [Rule.holds_before_iff, Value.asTimestamp]
  simp only [dueAround, hafter, hbefore]
  rcases lt_trichotomy a.instant b.instant with hlt | heq | hgt
  · simp [hlt, hlt.ne, not_lt_of_gt hlt]
  · simp [heq]
  · simp [hgt, hgt.ne', not_lt_of_gt hgt]

theorem dueAround_of_timeless {v : Value} (hv : v.asTimestamp = none) :
    dueAround field b lower upper v = [] := by
  have hafter : (Rule.after b).Holds v := by simp [Rule.holds_after_iff, hv]
  have hbefore : (Rule.before b).Holds v := by simp [Rule.holds_before_iff, hv]
  simp [dueAround, hafter, hbefore]

end Constraints

/-- Bounds in time compare instants, however the clocks are set that show them, so of two bounds at
one instant the instant itself keeps neither and any other keeps one. -/
theorem time_bounds_compare_instants (a b : Timestamp) :
    (a.isAfter b = true ↔ b.instant < a.instant) ∧
    a.isBefore b = b.isAfter a ∧
    (∀ offset moved, a.atOffset? offset = some moved → moved.offset = offset ∧
      moved.isAfter b = a.isAfter b ∧ b.isAfter moved = b.isAfter a ∧
        moved.isBefore b = a.isBefore b ∧ b.isBefore moved = b.isBefore a) ∧
    (minYear < a.clock.date.year → a.clock.date.year < maxYear →
      ∀ offset : Int, offset.natAbs < 86400 → ∃ moved, a.atOffset? offset = some moved) ∧
    a.toUtc? = a.atOffset? 0 ∧
    (∀ offset a' b', a.atOffset? offset = some a' → b.atOffset? offset = some b' →
      (a.isAfter b = true ↔ b'.clock.parts < a'.clock.parts)) ∧
    ∀ (options : Options) (field : String) (lower upper : Option String)
      (constraints others : Constraints),
      constraints.Perm (⟨.after b, lower⟩ :: ⟨.before b, upper⟩ :: others) →
      (∃ around,
        (Constraints.check options field constraints (some (.timestamp a))).value.Perm
          (around ++ (Constraints.check options field others (some (.timestamp a))).value) ∧
        around.map Violation.code =
          if a.instant = b.instant then ["after", "before"]
          else if a.instant < b.instant then ["after"] else ["before"]) ∧
      ∀ v : Value, v.isEmpty = false → v.asTimestamp = none →
        (Constraints.check options field constraints (some v)).value.Perm
          (Constraints.check options field others (some v)).value := by
  refine ⟨a.isAfter_iff b, a.isBefore_eq_isAfter b, ?_, ?_, a.toUtc?_eq_atOffset?, ?_, ?_⟩
  · intro offset moved hmoved
    obtain ⟨hinstant, hoffset⟩ := Timestamp.atOffset?_spec hmoved
    have hafter : moved.isAfter b = a.isAfter b := Timestamp.isAfter_congr hinstant rfl
    have hbefore : b.isAfter moved = b.isAfter a := Timestamp.isAfter_congr rfl hinstant
    simp only [hoffset, Timestamp.isBefore_eq_isAfter, hafter, hbefore, and_self]
  · exact fun hfirst hlast offset hoffset => a.exists_atOffset? offset hoffset hfirst hlast
  · exact fun offset a' b' ha hb => Timestamp.isAfter_iff_parts ha hb
  · intro options field lower upper constraints others hboth
    constructor
    · exact ⟨_, Constraints.value_check_around options field b lower upper hboth rfl,
        Constraints.codes_dueAround field b lower upper a⟩
    · intro v hfilled hv
      have haround := Constraints.value_check_around options field b lower upper hboth hfilled
      rw [Constraints.dueAround_of_timeless field b lower upper hv, List.nil_append] at haround
      exact haround

/-- Half past midnight of the first of March east of Greenwich is the afternoon of a leap day in
the west. -/
theorem leap_day_keeps_neither_bound :
    let east : Timestamp := ⟨⟨⟨2024, 3, 1, by decide⟩,
      ⟨0, 30, 0, 0, by decide, by decide, by decide, by decide⟩⟩, 7200, by decide⟩
    let west : Timestamp := ⟨⟨⟨2024, 2, 29, by decide⟩,
      ⟨14, 30, 0, 0, by decide, by decide, by decide, by decide⟩⟩, -28800, by decide⟩
    east.atOffset? (-28800) = some west ∧ east.isAfter west = west.isAfter west ∧
      (Constraints.check {} "at" [⟨.before west, none⟩, ⟨.after west, none⟩]
        (some (.timestamp east))).value.length = 2 := by
  intro east west
  have hmoved : east.atOffset? (-28800) = some west := by decide
  have hinstant : east.instant = west.instant := by decide
  obtain ⟨_, _, hsame, _, _, _, hbounds⟩ := time_bounds_compare_instants east west
  refine ⟨hmoved, (hsame (-28800) west hmoved).2.1.symm, ?_⟩
  obtain ⟨⟨around, hfound, hcodes⟩, _⟩ := hbounds {} "at" none none
    [⟨.before west, none⟩, ⟨.after west, none⟩] [] (List.Perm.swap ..)
  rw [if_pos hinstant] at hcodes
  calc _ = around.length := by rw [hfound.length_eq]; simp [Constraints.check]
    _ = (around.map Violation.code).length := (List.length_map ..).symm
    _ = 2 := by rw [hcodes]; rfl

end Fieldwise
