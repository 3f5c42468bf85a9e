import Fieldwise.Proofs.Calendar.Partial
import Fieldwise.Proofs.Calendar.Written
import Fieldwise.Proofs.Number.Written
import Mathlib.Tactic.IntervalCases

/-!
# Dates as texts

A date is written as year, month and day with hyphens between them. Every number of the text is
read back, whatever it is; then the month has to be one of the twelve and the day one that the
month has in that year. So of the texts of this form those are read that show a day of the
calendar, as the midnight in UTC that it begins with.
-/

namespace Fieldwise.Calendar

/-! ### The Gregorian calendar -/

/-- Every fourth year is a leap year, but of the hundredth years only every fourth. -/
def IsGregorianLeap (year : Int) : Prop := 4 ∣ year ∧ (100 ∣ year → 400 ∣ year)

instance (year : Int) : Decidable (IsGregorianLeap year) := inferInstanceAs (Decidable (_ ∧ _))

/-- The number of days of each month, from January on. -/
def monthLengths (year : Int) : List Nat :=
  [31, if IsGregorianLeap year then 29 else 28, 31, 30, 31, 30, 31, 31, 30, 31, 30, 31]

/-- A month from 1 to 12 and a day that it has. -/
def IsGregorianDay (year : Int) (month day : Nat) : Prop :=
  1 ≤ month ∧ month ≤ 12 ∧ 1 ≤ day ∧ day ≤ (monthLengths year).getD (month - 1) 0

instance (year : Int) (month day : Nat) : Decidable (IsGregorianDay year month day) :=
  inferInstanceAs (Decidable (_ ∧ _))

theorem isLeapYear_eq_true_iff (year : Int) : isLeapYear year = true ↔ IsGregorianLeap year := by
  rw [isLeapYear_iff, IsGregorianLeap]
  omega

theorem getD_monthLengths (year : Int) {month : Nat} (hmonth : 1 ≤ month ∧ month ≤ 12) :
    (monthLengths year).getD (month - 1) 0 = daysInMonth year month := by
  have hleap := isLeapYear_eq_true_iff year
  obtain ⟨hfirst, hlast⟩ := hmonth
  unfold monthLengths daysInMonth
  simp only [← hleap]
  interval_cases month <;> rfl

theorem isDay_iff (year : Int) (month day : Nat) (hyear : minYear ≤ year ∧ year ≤ maxYear) :
    IsDay year month day ↔ IsGregorianDay year month day := by
  unfold IsDay IsGregorianDay
  by_cases hmonth : 1 ≤ month ∧ month ≤ 12
  · simp only [getD_monthLengths year hmonth, hyear, hmonth, true_and]
  · constructor
    · intro h
      exact absurd ⟨h.2.2.1, h.2.2.2.1⟩ hmonth
    · intro h
      exact absurd ⟨h.1, h.2.1⟩ hmonth

/-! ### Numbers with a width -/

open Timestamp

section

variable {n : Nat} (rest : List Char)

/-- As many digits are taken as the number may have, whatever comes next. -/
theorem scanNumber_padded {width : Nat} (hwidth : 0 < width) (hmost : width ≤ 18)
    (hn : n < Number.tenPow width) :
    scanNumber 1 (some width) (padded width n ++ rest) = .ok (n, rest) := by
  have hlength := length_padded hwidth hn
  have hbytes : ¬Text.byteLength (padded width n ++ rest) < 1 := by
    have hle := length_le_byteLength (padded width n ++ rest)
    rw [List.length_append, hlength] at hle
    omega
  have hdigits : ((padded width n ++ rest).take width).takeWhile Char.isDigit =
      padded width n := by
    rw [List.take_left' hlength]
    exact List.takeWhile_eq_self_iff.mpr (isDigit_of_mem_padded width n)
  have hfits : n < 9223372036854775808 := by
    have hpow : Number.tenPow width ≤ Number.tenPow 18 := Nat.pow_le_pow_right (by decide) hmost
    have hmax : Number.tenPow 18 = 1000000000000000000 := rfl
    omega
  simp only [scanNumber, if_neg hbytes, hdigits, hlength, ofDigitChars_padded, if_pos hfits,
    List.drop_left' hlength, if_neg (Nat.not_lt.mpr hwidth)]

/-- A number of any length ends before the next other character. -/
theorem scanNumber_padded_free (width : Nat) {c : Char} (hc : c.isDigit = false)
    (hn : n < 9223372036854775808) :
    scanNumber 1 none (padded width n ++ c :: rest) = .ok (n, c :: rest) := by
  have hfilled : 0 < (padded width n).length := by
    have hnatural := List.length_pos_of_ne_nil (Number.natural_ne_nil n)
    rw [padded, List.length_append]
    omega
  have hbytes : ¬Text.byteLength (padded width n ++ c :: rest) < 1 := by
    have hle := length_le_byteLength (padded width n ++ c :: rest)
    rw [List.length_append] at hle
    omega
  have hdigits : (padded width n ++ c :: rest).takeWhile Char.isDigit = padded width n := by
    rw [List.takeWhile_append_of_pos (isDigit_of_mem_padded width n),
      List.takeWhile_cons_of_neg (by simp [hc]), List.append_nil]
  simp only [scanNumber, if_neg hbytes, hdigits, ofDigitChars_padded, if_pos hn,
    List.drop_left' rfl, if_neg (Nat.not_lt.mpr hfilled)]

end

/-! ### The numbers of a date -/

/-- A year, a month and a day determine a date by themselves. -/
theorem Fields.date_ymd (year : Int) (month day : Nat) :
    date { year := some year, month := some month, day := some day } =
      dated (Date.ofYmd? year month day) := by
  have hcandidate : candidate { year := some year, month := some month, day := some day } =
      (dated (Date.ofYmd? year month day)).map fun d => (d, true) := by
    simp only [candidate, resolveYear, bind, Except.bind]
    cases Date.ofYmd? year month day with
    | none => rfl
    | some d => rfl
  rw [date, hcandidate]
  cases Date.ofYmd? year month day with
  | none => rfl
  | some d => rfl

theorem padded_eq_cons (width n : Nat) :
    ∃ c cs, padded width n = c :: cs ∧ c.isDigit = true ∧ c ≠ '-' ∧ c ≠ '+' := by
  cases hpadded : padded width n with
  | nil => exact absurd (List.append_eq_nil_iff.mp hpadded).2 (Number.natural_ne_nil n)
  | cons c cs =>
    have hdigit := isDigit_of_mem_padded width n c (hpadded ▸ List.mem_cons_self ..)
    refine ⟨c, cs, rfl, hdigit, ?_, ?_⟩
    · rintro rfl
      exact absurd hdigit (by decide)
    · rintro rfl
      exact absurd hdigit (by decide)

/-- Where no sign stands before it a number has its own width, that of a year included. -/
theorem scan_padded {field : NumberField} {width n : Nat} (hfield : field.width = some width)
    (hwidth : 0 < width) (hmost : width ≤ 18) (hn : n < Number.tenPow width)
    (rest : List Char) : field.scan (padded width n ++ rest) = .ok (n, rest) := by
  have hread := scanNumber_padded rest hwidth hmost hn
  obtain ⟨c, cs, hcons, hdigit, hminus, hplus⟩ := padded_eq_cons width n
  rw [hcons, List.cons_append] at hread ⊢
  simp only [NumberField.scan, Text.trimStart_of_not_blank (Number.isBlank_of_isDigit c hdigit),
    hfield]
  split
  · split
    · rename_i hsign
      exact absurd (List.cons.inj hsign).1 hminus
    · rename_i hsign
      exact absurd (List.cons.inj hsign).1 hplus
    · exact hread
  · exact hread

theorem scan_yearChars {year : Int} (hyear : minYear ≤ year ∧ year ≤ maxYear) (rest : List Char) :
    NumberField.year.scan (yearChars year ++ '-' :: rest) = .ok (year, '-' :: rest) := by
  rw [minYear, maxYear] at hyear
  have hfits : year.natAbs < 9223372036854775808 := by omega
  have hfree := scanNumber_padded_free rest 4 (c := '-') rfl hfits
  unfold yearChars
  split
  · rename_i hfour
    have hnat : ((year.toNat : Nat) : Int) = year := Int.toNat_of_nonneg hfour.1
    have hdigits : year.toNat < Number.tenPow 4 := by
      have hpow : Number.tenPow 4 = 10000 := rfl
      omega
    rw [scan_padded rfl (by decide) (by decide) hdigits, hnat]
  · split
    · have hsigned : -((year.natAbs : Nat) : Int) = year := by omega
      show (scanNumber 1 none (padded 4 year.natAbs ++ '-' :: rest) >>= fun found =>
        .ok (-found.1, found.2)) = _
      rw [hfree]
      exact congrArg (fun n => Except.ok (n, '-' :: rest)) hsigned
    · have hsigned : ((year.natAbs : Nat) : Int) = year := by omega
      show scanNumber 1 none (padded 4 year.natAbs ++ '-' :: rest) = _
      rw [hfree, hsigned]

theorem natInRange_natCast (low high n : Nat) :
    natInRange low high (n : Int) =
      if low ≤ n ∧ n ≤ high then .ok n else .error .outOfRange := by
  unfold natInRange inRange
  simp only [Int.ofNat_le]
  split
  · rfl
  · rfl

theorem set_dateNumbers {year : Int} (hyear : minYear ≤ year ∧ year ≤ maxYear)
    (month day : Nat) :
    (do
      let f ← Fields.set {} .year year
      let f ← f.set .month month
      f.set .day day) =
      if 1 ≤ month ∧ month ≤ 12 ∧ 1 ≤ day ∧ day ≤ 31 then
        .ok { year := some year, month := some month, day := some day }
      else .error .outOfRange := by
  have hrange : inRange (-2147483648) 2147483647 year = .ok year := by
    rw [minYear, maxYear] at hyear
    exact if_pos (by omega)
  simp only [Fields.set, hrange, natInRange_natCast, agree, bind, Except.bind, pure, Except.pure]
  by_cases hmonth : 1 ≤ month ∧ month ≤ 12
  · by_cases hday : 1 ≤ day ∧ day ≤ 31
    · simp [hmonth, hday]
    · simp [hmonth, hday]
  · have hboth : ¬(1 ≤ month ∧ month ≤ 12 ∧ 1 ≤ day ∧ day ≤ 31) :=
      fun h => hmonth ⟨h.1, h.2.1⟩
    simp only [if_neg hmonth, if_neg hboth]

/-! ### Texts of dates -/

/-- A year as it is shown, and two digits each of a month and a day. -/
def dateText (year : Int) (month day : Nat) : List Char :=
  yearChars year ++ '-' :: (padded 2 month ++ '-' :: padded 2 day)

section

variable {year : Int} {month day : Nat} (hyear : minYear ≤ year ∧ year ≤ maxYear)
  (hmonth : month < 100) (hday : day < 100)

include hyear hmonth hday

theorem readFields_dateText :
    readFields (LayoutItem.separated "-" [.year, .month, .day]) (dateText year month day) =
      (do
        let f ← Fields.set {} .year year
        let f ← f.set .month month
        f.set .day day) := by
  have hhyphen : ∀ cs, scanLiteral "-".toList ('-' :: cs) = .ok cs := by
    intro cs
    have hbytes : ¬Text.byteLength ('-' :: cs) < Text.byteLength ['-'] := by
      simp [Text.byteLength]
    show (if Text.byteLength ('-' :: cs) < Text.byteLength ['-'] then _ else _) = _
    rw [if_neg hbytes]
    rfl
  have hmonthScan : NumberField.month.scan (padded 2 month ++ '-' :: padded 2 day) =
      .ok ((month : Int), '-' :: padded 2 day) :=
    scan_padded rfl (by decide) (by decide) hmonth _
  have hdayScan : NumberField.day.scan (padded 2 day ++ []) = .ok ((day : Int), []) :=
    scan_padded rfl (by decide) (by decide) hday []
  rw [List.append_nil] at hdayScan
  simp only [readFields, LayoutItem.separated, readItems, LayoutItem.read, readNumber, dateText,
    scan_yearChars hyear, bind, Except.bind]
  cases Fields.set {} .year year with
  | error e => rfl
  | ok f =>
    simp only [pure, Except.pure, hhyphen, hmonthScan]
    cases f.set .month month with
    | error e => rfl
    | ok g =>
      simp only [hhyphen, hdayScan]
      cases g.set .day day with
      | error e => rfl
      | ok h => rfl

theorem read_dateText :
    Layout.date.read (dateText year month day) =
      (Fields.dated (Date.ofYmd? year month day)).map fun date => .utc ⟨date, .midnight⟩ := by
  rw [Layout.read, readFields_dateText hyear hmonth hday, set_dateNumbers hyear]
  split
  · show (Fields.date _ >>= _) = _
    rw [Fields.date_ymd]
    cases Date.ofYmd? year month day with
    | none => rfl
    | some date => rfl
  · rename_i hnumbers
    have hnone : Date.ofYmd? year month day = none := by
      apply dif_neg
      intro hisDay
      obtain ⟨_, _, hmonths, hlast, hdays, hfits⟩ := hisDay
      have hle := daysInMonth_le year month
      exact hnumbers ⟨hmonths, hlast, hdays, by omega⟩
    rw [hnone]
    rfl

end

theorem isBlank_of_mem_dateText (year : Int) (month day : Nat) :
    ∀ c ∈ dateText year month day, Text.isBlank c = false := by
  have hpadded := isBlank_of_mem_padded 2
  have hhyphen : Text.isBlank '-' = false := by decide
  simp only [dateText, List.forall_mem_append, List.forall_mem_cons]
  exact ⟨isBlank_of_mem_yearChars year, hhyphen, hpadded month, hhyphen, hpadded day⟩

/-- The midnight that a day begins with shows the day. -/
theorem toText_midnight (date : Date) :
    (Value.timestamp (.utc ⟨date, .midnight⟩)).toText =
      String.ofList (dateText date.year date.month date.day) ++ "T00:00:00Z" := by
  have hclock : 'T' :: (timeChars .midnight ++ offsetChars 0) = "T00:00:00Z".toList := by decide
  apply String.toList_inj.mp
  rw [String.toList_append, String.toList_ofList, ← hclock]
  exact String.toList_ofList

/-- How a year is written: in four digits from 0 to 9999, and otherwise with a sign and at least
four. -/
def IsYearText (year : Int) (cs : List Char) : Prop :=
  ∃ n : Number.WrittenInteger, n.chars = cs ∧ n.value = year ∧
    if 0 ≤ year ∧ year ≤ 9999 then n.sign = .none ∧ n.digits.chars.length = 4
    else n.sign ≠ .none ∧ 4 ≤ n.digits.chars.length

theorem le_length_padded (width n : Nat) : width ≤ (padded width n).length := by
  rw [padded, List.length_append, List.length_replicate]
  omega

theorem isYearText_yearChars (year : Int) : IsYearText year (yearChars year) := by
  have hdigits : ∀ n : Nat, ∃ ds : Number.Digits, ds.chars = padded 4 n ∧ ds.value = n := by
    intro n
    obtain ⟨c, cs, hcons, _⟩ := padded_eq_cons 4 n
    have hne : padded 4 n ≠ [] := by simp [hcons]
    exact ⟨⟨padded 4 n, hne, List.all_eq_true.mpr (isDigit_of_mem_padded 4 n)⟩, rfl,
      ofDigitChars_padded 4 n⟩
  unfold yearChars IsYearText
  split
  · rename_i hfour
    obtain ⟨ds, hchars, hvalue⟩ := hdigits year.toNat
    have hwidth : year.toNat < Number.tenPow 4 := by
      have hpow : Number.tenPow 4 = 10000 := rfl
      omega
    refine ⟨⟨.none, ds⟩, hchars, ?_, rfl, ?_⟩
    · show (ds.value : Int) = year
      omega
    · rw [hchars, length_padded (by decide) hwidth]
  · obtain ⟨ds, hchars, hvalue⟩ := hdigits year.natAbs
    have hlength : 4 ≤ ds.chars.length := hchars ▸ le_length_padded 4 year.natAbs
    split
    · refine ⟨⟨.minus, ds⟩, congrArg _ hchars, ?_, nofun, hlength⟩
      show -(ds.value : Int) = year
      omega
    · refine ⟨⟨.plus, ds⟩, congrArg _ hchars, ?_, nofun, hlength⟩
      show (ds.value : Int) = year
      omega

theorem isSome_ofYmd?_iff {year : Int} (hyear : minYear ≤ year ∧ year ≤ maxYear)
    (month day : Nat) :
    (Date.ofYmd? year month day).isSome = true ↔ IsGregorianDay year month day := by
  rw [← isDay_iff year month day hyear]
  unfold Date.ofYmd?
  split
  · rename_i hisDay
    simp [hisDay]
  · rename_i hisDay
    simp [hisDay]

end Fieldwise.Calendar

namespace Fieldwise

open Calendar

theorem Value.toTimestamp_dateText {year : Int} {month day : Nat}
    (hyear : minYear ≤ year ∧ year ≤ maxYear) (hmonth : month < 100) (hday : day < 100)
    {text : String} (htext : text.toList = dateText year month day) :
    (Value.text text).toTimestamp .date =
      match Date.ofYmd? year month day with
      | some date => .ok (.utc ⟨date, .midnight⟩)
      | none => .error ⟨text, .date, .outOfRange⟩ := by
  have htrim : Text.trim (Value.text text).chars = text.toList := by
    refine Text.trim_eq_self text.toList ?_
    rw [htext]
    exact isBlank_of_mem_dateText year month day
  rw [Value.toTimestamp_of_timeless _ _ rfl, htrim, htext, read_dateText hyear hmonth hday]
  cases Date.ofYmd? year month day with
  | some date => rfl
  | none =>
    rw [← htext, String.ofList_toList]
    rfl

/-- A text of a year, two digits of a month and two digits of a day shows a date if there is such a
day in the Gregorian calendar: the midnight in UTC that the day begins with, which shows the text
again. Any other text of this form is out of range, and the constraint reports it. -/
theorem date_text_shows_calendar_day (year : Int) (month day : Nat)
    (hyear : -262143 ≤ year ∧ year ≤ 262142) (hmonth : month < 100) (hday : day < 100)
    (text : String) (htext : text.toList = dateText year month day) :
    IsYearText year (Timestamp.yearChars year) ∧
    (IsGregorianDay year month day →
      ∃ date : Date, date.year = year ∧ date.month = month ∧ date.day = day ∧
        (Value.text text).toTimestamp .date = .ok (.utc ⟨date, .midnight⟩) ∧
        (Value.timestamp (.utc ⟨date, .midnight⟩)).toText = text ++ "T00:00:00Z") ∧
    (¬IsGregorianDay year month day →
      (Value.text text).toTimestamp .date = .error ⟨text, .date, .outOfRange⟩) ∧
    ∀ (options : Options) (field : String) (override : Option String),
      (Constraints.check options field [⟨.timeFormat .date, override⟩]
        (some (.text text))).value =
        if IsGregorianDay year month day then []
        else [⟨field, override.getD "Must be a valid date (YYYY-MM-DD)", "date"⟩] := by
  have hread := Value.toTimestamp_dateText hyear hmonth hday htext
  have hsome := isSome_ofYmd?_iff hyear month day
  refine ⟨isYearText_yearChars year, ?_, ?_, ?_⟩
  · intro hgregorian
    obtain ⟨date, hdate⟩ := Option.isSome_iff_exists.mp (hsome.mpr hgregorian)
    obtain ⟨rfl, rfl, rfl⟩ := Date.ofYmd?_eq_some_iff.mp hdate
    rw [hdate] at hread
    refine ⟨date, rfl, rfl, rfl, hread, ?_⟩
    rw [toText_midnight, ← htext, String.ofList_toList]
  · intro hgregorian
    have hnone : Date.ofYmd? year month day = none := by
      rw [← Option.not_isSome_iff_eq_none, hsome]
      exact hgregorian
    rw [hread, hnone]
  · intro options field override
    have hfilled : (Value.text text).isEmpty = false := by
      have hne : text.toList ≠ [] := by simp [htext, dateText]
      simpa using Value.isEmpty_text_append [] [] hne
    have hholds : (Rule.timeFormat .date).Holds (.text text) ↔ IsGregorianDay year month day := by
      rw [← hsome, Rule.Holds, hread]
      cases Date.ofYmd? year month day with
      | some date => simp [Except.isOk, Except.toBool]
      | none => simp [Except.isOk, Except.toBool]
    rw [Constraints.value_check_alone options field (.timeFormat .date) override _ hfilled
      not_false]
    simp only [hholds]
    rfl

/-- The leap day of a year before the first is a day, that of 1900 is none. -/
theorem early_leap_day_shown :
    (Value.text "-0004-02-29").toTimestamp .date =
        .ok (.utc ⟨⟨-4, 2, 29, by decide⟩, .midnight⟩) ∧
      (Constraints.check {} "on" [⟨.timeFormat .date, none⟩] (some (.text "1900-02-29"))).value =
        [⟨"on", "Must be a valid date (YYYY-MM-DD)", "date"⟩] := by
  have hearly := date_text_shows_calendar_day (-4) 2 29 (by decide) (by decide) (by decide)
    "-0004-02-29" (by decide)
  have hcommon := date_text_shows_calendar_day 1900 2 29 (by decide) (by decide) (by decide)
    "1900-02-29" (by decide)
  constructor
  · obtain ⟨⟨y, m, d, _⟩, rfl, rfl, rfl, hread, _⟩ := hearly.2.1 (by decide)
    exact hread
  · exact hcommon.2.2.2 {} "on" none

end Fieldwise
