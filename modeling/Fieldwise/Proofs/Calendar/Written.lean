import Fieldwise.Calendar.Reading
import Fieldwise.Proofs.Calendar.Days
import Fieldwise.Proofs.TextForms
import Mathlib.Data.List.Basic

/-!
# The written form of a timestamp

Every number of the written form has a width of its own, so each scan takes the digits of one
number and leaves the text after it. Read scan by scan, the text gives the date, the time of day
and the offset that were written. Only the time of a leap second inside a minute is written as
that of the second after it, and read so.
-/

namespace Fieldwise.Calendar

/-! ### Numbers of a fixed width -/

namespace Timestamp

theorem isDigit_of_mem_padded (width n : Nat) (c : Char) (h : c ∈ padded width n) :
    c.isDigit = true := by
  rcases List.mem_append.mp h with hzero | hnatural
  · rw [List.eq_of_mem_replicate hzero]
    rfl
  · exact Number.isDigit_of_mem_natural n c hnatural

theorem ofDigitChars_padded (width n : Nat) : Nat.ofDigitChars 10 (padded width n) 0 = n := by
  rw [padded, Nat.ofDigitChars_append, Nat.ofDigitChars_replicate_zero, Nat.mul_zero,
    Number.ofDigitChars_natural]

theorem length_padded {width n : Nat} (hwidth : 0 < width) (hn : n < Number.tenPow width) :
    (padded width n).length = width := by
  have hle : (Number.natural n).length ≤ width :=
    (Nat.length_toDigits_le_iff (by decide) hwidth).mpr hn
  rw [padded, List.length_append, List.length_replicate, Nat.sub_add_cancel hle]

theorem length_padded_two {n : Nat} (hn : n < 100) : (padded 2 n).length = 2 :=
  length_padded (by decide) hn

end Timestamp

open Timestamp

theorem length_le_byteLength (cs : List Char) : cs.length ≤ Text.byteLength cs := by
  induction cs with
  | nil => exact Nat.le_refl 0
  | cons c cs ih =>
    have hsize := c.utf8Size_pos
    rw [List.length_cons, Text.byteLength]
    omega

/-! ### Scans -/

section

variable {n : Nat} (rest : List Char)

theorem scanDigits_padded {width : Nat} (hwidth : 0 < width) (hn : n < Number.tenPow width) :
    scanDigits width (padded width n ++ rest) = .ok (n, rest) := by
  have hlength := length_padded hwidth hn
  have hdigits : (padded width n).all Char.isDigit = true :=
    List.all_eq_true.mpr (isDigit_of_mem_padded width n)
  have htake : (padded width n ++ rest).take width = padded width n :=
    List.take_left' hlength
  have hdrop : (padded width n ++ rest).drop width = rest := List.drop_left' hlength
  simp only [scanDigits, htake, hdrop, hlength, hdigits, and_self, ↓reduceIte,
    ofDigitChars_padded]

theorem twoDigits_padded (hn : n < 100) : twoDigits (padded 2 n ++ rest) = .ok (n, rest) := by
  have hlength : (padded 2 n).length = 2 := length_padded_two hn
  have hbytes : ¬Text.byteLength (padded 2 n ++ rest) < 2 := by
    have hle := length_le_byteLength (padded 2 n ++ rest)
    rw [List.length_append, hlength] at hle
    omega
  have hvalue := ofDigitChars_padded 2 n
  have hdigits := isDigit_of_mem_padded 2 n
  obtain ⟨a, b, hab⟩ := List.length_eq_two.mp hlength
  rw [hab] at hbytes hvalue hdigits ⊢
  have ha : a.isDigit = true := hdigits a (by simp)
  have hb : b.isDigit = true := hdigits b (by simp)
  unfold twoDigits
  rw [if_neg hbytes]
  simp only [List.cons_append, List.nil_append, ha, hb, Bool.and_self, ↓reduceIte, hvalue]

theorem scanTriple_padded (separator : Char) {digits a b c : Nat} (hdigits : 0 < digits)
    (ha : a < Number.tenPow digits) (hb : b < 100) (hc : c < 100) :
    scanTriple separator digits
      (padded digits a ++ separator :: (padded 2 b ++ separator :: (padded 2 c ++ rest))) =
      .ok ((a, b, c), rest) := by
  have htwo : ∀ n < 100, ∀ rest, scanDigits 2 (padded 2 n ++ rest) = .ok (n, rest) :=
    fun n hn rest => scanDigits_padded rest (by decide) hn
  have hseparator : ∀ cs, scanChar separator (separator :: cs) = .ok cs := fun cs => if_pos rfl
  simp only [scanTriple, scanDigits_padded _ hdigits ha, hseparator, htwo b hb, htwo c hc, bind,
    Except.bind, pure, Except.pure]

end

/-- The digits that are read of a number are those before the next other character. -/
theorem takeWhile_take_append (most : Nat) (ds : List Char) (c : Char) (rest : List Char)
    (hlength : ds.length ≤ most) (hdigits : ∀ d ∈ ds, d.isDigit = true)
    (hc : c.isDigit = false) :
    ((ds ++ c :: rest).take most).takeWhile Char.isDigit = ds := by
  rw [List.take_append, List.take_of_length_le hlength, List.takeWhile_append_of_pos hdigits]
  cases most - ds.length with
  | zero => rw [List.take_zero, List.takeWhile_nil, List.append_nil]
  | succ more =>
    rw [List.take_succ_cons, List.takeWhile_cons_of_neg (by simp [hc]), List.append_nil]

theorem scanFraction_padded {width n : Nat} (c : Char) (rest : List Char) (hwidth : 0 < width)
    (hmost : width ≤ 9) (hn : n < Number.tenPow width) (hc : c.isDigit = false) :
    scanFraction (padded width n ++ c :: rest) =
      .ok ((n * Number.tenPow (9 - width) : Nat), c :: rest) := by
  have hlength := length_padded hwidth hn
  have hfew : (padded width n).length ≤ 9 := by omega
  have hbytes : ¬Text.byteLength (padded width n ++ c :: rest) < 1 := by
    have hle := length_le_byteLength (padded width n ++ c :: rest)
    rw [List.length_append, hlength] at hle
    omega
  have hdigits := takeWhile_take_append 9 (padded width n) c rest hfew
    (isDigit_of_mem_padded width n) hc
  have hfits : n < 9223372036854775808 := by
    have hpow : Number.tenPow width ≤ Number.tenPow 9 := Nat.pow_le_pow_right (by decide) hmost
    have hnine : Number.tenPow 9 = 1000000000 := rfl
    omega
  have hnumber : scanNumber 1 (some 9) (padded width n ++ c :: rest) = .ok (n, c :: rest) := by
    simp only [scanNumber, if_neg hbytes, hdigits, hlength, ofDigitChars_padded, if_pos hfits,
      List.drop_left' hlength, if_neg (Nat.not_lt.mpr hwidth)]
  have hread : (padded width n ++ c :: rest).length - (c :: rest).length = width := by
    rw [List.length_append, Nat.add_sub_cancel, hlength]
  have hdrop : (c :: rest).dropWhile Char.isDigit = c :: rest :=
    List.dropWhile_cons_of_neg (by simp [hc])
  simp only [scanFraction, hnumber, bind, Except.bind, pure, Except.pure, hread, hdrop]
  rw [Int.natCast_mul]

theorem scanPointed_fractionChars {nano : Nat} (c : Char) (rest : List Char)
    (hnano : nano < 1000000000) (hc : c.isDigit = false) (hpoint : c ≠ '.') :
    scanPointed (fractionChars nano ++ c :: rest) = .ok ((nano : Int), c :: rest) := by
  -- The digits of the fraction stand for so many groups of three zeros more.
  have hscan : ∀ width, 0 < width → width ≤ 9 → ∀ n, n * Number.tenPow (9 - width) = nano →
      n < Number.tenPow width →
      scanPointed (('.' :: padded width n) ++ c :: rest) = .ok ((nano : Int), c :: rest) := by
    intro width hwidth hmost n hvalue hn
    have hfraction := scanFraction_padded c rest hwidth hmost hn hc
    rw [hvalue] at hfraction
    exact hfraction
  have hthree : Number.tenPow (9 - 3) = 1000000 := rfl
  have hsix : Number.tenPow (9 - 6) = 1000 := rfl
  have hnine : Number.tenPow (9 - 9) = 1 := rfl
  unfold fractionChars
  split
  · rename_i hzero
    subst hzero
    unfold scanPointed
    split
    · rename_i hcons
      exact absurd (List.cons.inj hcons).1 hpoint
    · rfl
  · split
    · have hmillis : nano / 1000000 < 1000 := by omega
      exact hscan 3 (by decide) (by decide) _ (by rw [hthree]; omega) hmillis
    · split
      · have hmicros : nano / 1000 < 1000000 := by omega
        exact hscan 6 (by decide) (by decide) _ (by rw [hsix]; omega) hmicros
      · exact hscan 9 (by decide) (by decide) _ (by rw [hnine]; omega) hnano

theorem scanOffset_signed {sign : Char} {hours minutes : Nat} (hsign : sign = '+' ∨ sign = '-')
    (hhours : hours < 100) (hminutes : minutes < 60) :
    scanOffset (scanChar ':') true false
      (sign :: (padded 2 hours ++ ':' :: padded 2 minutes)) =
      .ok (if sign == '+' then (hours : Int) * 3600 + minutes * 60
        else -((hours : Int) * 3600 + minutes * 60), []) := by
  have hnotZulu : (sign == 'Z' || sign == 'z') = false := by
    rcases hsign with rfl | rfl
    · rfl
    · rfl
  have hknown : (sign != '+' && sign != '-' && sign != '\u2212') = false := by
    rcases hsign with rfl | rfl
    · rfl
    · rfl
  have hcolon : ∀ cs, scanChar ':' (':' :: cs) = .ok cs := fun _ => rfl
  have hlast : twoDigits (padded 2 minutes) = .ok (minutes, []) := by
    rw [← twoDigits_padded [] (by omega), List.append_nil]
  have hbytes : ¬Text.byteLength (padded 2 minutes) < 2 := by
    have hle := length_le_byteLength (padded 2 minutes)
    rw [length_padded_two (by omega)] at hle
    omega
  simp only [scanOffset, hnotZulu, hknown, Bool.and_false, Bool.false_eq_true, ↓reduceIte,
    twoDigits_padded _ hhours, hcolon, if_neg hbytes, hlast, if_neg (Nat.not_le.mpr hminutes),
    bind, Except.bind, pure, Except.pure]

/-- Of an offset of whole minutes nothing is rounded away. -/
theorem scanOffset_offsetChars (offset : Int) (hminutes : offset % 60 = 0)
    (hlt : offset.natAbs < 86400) :
    scanOffset (scanChar ':') true false (offsetChars offset) = .ok (offset, []) := by
  unfold offsetChars
  split
  · rename_i hzero
    rw [hzero]
    rfl
  · generalize hrounded : (offset.natAbs + 30) / 60 = minutes
    have habs : ((minutes / 60 : Nat) : Int) * 3600 + ((minutes % 60 : Nat) : Int) * 60 =
        offset.natAbs := by omega
    have hhours : minutes / 60 < 100 := by omega
    have hpart : minutes % 60 < 60 := by omega
    split
    · have hsign : -(offset.natAbs : Int) = offset := by omega
      rw [scanOffset_signed (.inr rfl) hhours hpart, habs]
      exact congrArg (fun z => Except.ok (z, [])) hsign
    · have hsign : (offset.natAbs : Int) = offset := by omega
      rw [scanOffset_signed (.inl rfl) hhours hpart, habs]
      exact congrArg (fun z => Except.ok (z, [])) hsign

theorem offsetChars_eq_cons (offset : Int) :
    ∃ c rest, offsetChars offset = c :: rest ∧ c.isDigit = false ∧ c ≠ '.' := by
  unfold offsetChars
  split
  · exact ⟨_, _, rfl, rfl, by decide⟩
  · split
    · exact ⟨_, _, rfl, rfl, by decide⟩
    · exact ⟨_, _, rfl, rfl, by decide⟩

/-! ### Leap seconds -/

namespace TimeOfDay

/-- A leap second that is not the last second of its minute. -/
def IsInnerLeap (t : TimeOfDay) : Prop := 1000000000 ≤ t.nano ∧ t.second ≠ 59

instance (t : TimeOfDay) : Decidable t.IsInnerLeap := inferInstanceAs (Decidable (_ ∧ _))

/-- The same point of the second after a leap second inside a minute. -/
def afterLeap (t : TimeOfDay) (h : t.IsInnerLeap) : TimeOfDay where
  hour := t.hour
  minute := t.minute
  second := t.second + 1
  nano := t.nano - 1000000000
  hour_lt := t.hour_lt
  minute_lt := t.minute_lt
  second_lt := by
    have hlt := t.second_lt
    have hne := h.2
    omega
  nano_lt := by
    have hlt := t.nano_lt
    omega

theorem ofParts?_self (t : TimeOfDay) : ofParts? t.hour t.minute t.second t.nano = some t :=
  dif_pos ⟨t.hour_lt, t.minute_lt, t.second_lt, t.nano_lt⟩

/-- The second as it is written, that of a leap second counted on. -/
def writtenSecond (t : TimeOfDay) : Nat :=
  if 1000000000 ≤ t.nano then t.second + 1 else t.second

def writtenNano (t : TimeOfDay) : Nat :=
  if 1000000000 ≤ t.nano then t.nano - 1000000000 else t.nano

theorem writtenNano_lt (t : TimeOfDay) : t.writtenNano < 1000000000 := by
  have hlt := t.nano_lt
  unfold writtenNano
  split
  · omega
  · omega

theorem writtenSecond_le (t : TimeOfDay) : t.writtenSecond ≤ 60 := by
  have hlt := t.second_lt
  unfold writtenSecond
  split
  · omega
  · omega

theorem clockTime_written (t : TimeOfDay) :
    clockTime t.hour t.minute t.writtenSecond t.writtenNano =
      some (if h : t.IsInnerLeap then t.afterLeap h else t) := by
  have hself := t.ofParts?_self
  have hlt := t.second_lt
  unfold writtenSecond writtenNano
  by_cases hleap : 1000000000 ≤ t.nano
  · rw [if_pos hleap, if_pos hleap]
    by_cases hend : t.second = 59
    · -- Second 60 is read as the leap second that it was.
      have hnano : 1000000000 + (t.nano - 1000000000) = t.nano := by omega
      have houter : ¬t.IsInnerLeap := fun h => h.2 hend
      rw [clockTime, if_pos (by omega), hnano, dif_neg houter, ← hend, hself]
    · have hinner : t.IsInnerLeap := ⟨hleap, hend⟩
      rw [clockTime, if_neg (by omega), dif_pos hinner]
      exact (t.afterLeap hinner).ofParts?_self
  · have houter : ¬t.IsInnerLeap := fun h => hleap h.1
    rw [if_neg hleap, if_neg hleap, clockTime, if_neg (by omega), hself, dif_neg houter]

end TimeOfDay

/-! ### Whole timestamps -/

namespace Timestamp

theorem scanTriple_dateChars (d : Date) (hyear : 0 ≤ d.year ∧ d.year ≤ 9999) (rest : List Char) :
    scanTriple '-' 4 (dateChars d ++ rest) = .ok ((d.year.toNat, d.month, d.day), rest) := by
  obtain ⟨_, _, _, hmonth, _, hfits⟩ := d.isDay
  have hday := daysInMonth_le d.year d.month
  have hfour : d.year.toNat < 10000 := by omega
  have hwritten : dateChars d ++ rest = padded 4 d.year.toNat ++
      '-' :: (padded 2 d.month ++ '-' :: (padded 2 d.day ++ rest)) := by
    simp [dateChars, yearChars, hyear]
  rw [hwritten, scanTriple_padded rest '-' (by decide) hfour (by omega) (by omega)]

theorem scanTriple_timeChars (t : TimeOfDay) (rest : List Char) :
    scanTriple ':' 2 (timeChars t ++ rest) =
      .ok ((t.hour, t.minute, t.writtenSecond), fractionChars t.writtenNano ++ rest) := by
  have hhour : t.hour < 100 := by
    have hlt := t.hour_lt
    omega
  have hminute := t.minute_lt
  have hsecond := t.writtenSecond_le
  have hwritten : timeChars t ++ rest = padded 2 t.hour ++ ':' :: (padded 2 t.minute ++
      ':' :: (padded 2 t.writtenSecond ++ (fractionChars t.writtenNano ++ rest))) := by
    simp [timeChars, TimeOfDay.writtenSecond, TimeOfDay.writtenNano]
  rw [hwritten, scanTriple_padded _ ':' (by decide) hhour (by omega) (by omega)]

theorem length_chars (t : Timestamp) (hyear : 0 ≤ t.clock.date.year ∧ t.clock.date.year ≤ 9999) :
    rfc3339Length ≤ t.chars.length := by
  obtain ⟨_, _, _, hmonth, _, hfits⟩ := t.clock.date.isDay
  have hday := daysInMonth_le t.clock.date.year t.clock.date.month
  have hdate : (dateChars t.clock.date).length = 10 := by
    have hyears : t.clock.date.year.toNat < 10000 := by omega
    have hfour : (padded 4 t.clock.date.year.toNat).length = 4 :=
      length_padded (by decide) hyears
    simp only [dateChars, yearChars, if_pos hyear, List.length_append, List.length_cons, hfour,
      length_padded_two (show t.clock.date.month < 100 by omega),
      length_padded_two (show t.clock.date.day < 100 by omega)]
  have htime : 8 ≤ (timeChars t.clock.time).length := by
    have hhour := t.clock.time.hour_lt
    have hminute := t.clock.time.minute_lt
    have hsecond := t.clock.time.writtenSecond_le
    show 8 ≤ (padded 2 t.clock.time.hour ++ ':' :: (padded 2 t.clock.time.minute ++ ':' ::
      (padded 2 t.clock.time.writtenSecond ++ fractionChars _))).length
    simp only [List.length_append, List.length_cons,
      length_padded_two (show t.clock.time.hour < 100 by omega),
      length_padded_two (show t.clock.time.minute < 100 by omega),
      length_padded_two (show t.clock.time.writtenSecond < 100 by omega)]
    omega
  simp only [chars, List.length_append, List.length_cons, hdate, rfc3339Length]
  omega

/-- What the written form says: the timestamp, but the second after a leap second inside a
minute. -/
def readBack (t : Timestamp) : Timestamp where
  clock := ⟨t.clock.date, if h : t.clock.time.IsInnerLeap then t.clock.time.afterLeap h
    else t.clock.time⟩
  offset := t.offset
  offset_lt := t.offset_lt

theorem readBack_of_not_innerLeap (t : Timestamp) (h : ¬t.clock.time.IsInnerLeap) :
    t.readBack = t := by
  rw [readBack]
  simp only [dif_neg h]

theorem readRfc3339_chars (t : Timestamp)
    (hyear : 0 ≤ t.clock.date.year ∧ t.clock.date.year ≤ 9999) (hminutes : t.offset % 60 = 0) :
    readRfc3339 t.chars = .ok t.readBack := by
  have hbytes : ¬Text.byteLength t.chars < rfc3339Length :=
    Nat.not_lt.mpr (Nat.le_trans (t.length_chars hyear) (length_le_byteLength t.chars))
  have hdate : scanTriple '-' 4 t.chars = _ := scanTriple_dateChars t.clock.date hyear _
  have hymd : Date.ofYmd? t.clock.date.year.toNat t.clock.date.month t.clock.date.day =
      some t.clock.date := by
    rw [Int.toNat_of_nonneg hyear.1]
    exact Date.ofYmd?_eq_some_iff.mpr ⟨rfl, rfl, rfl⟩
  have hseparator : ∀ cs, scanT ('T' :: cs) = .ok cs := fun _ => rfl
  have htime := scanTriple_timeChars t.clock.time (offsetChars t.offset)
  have hfraction : scanPointed (fractionChars t.clock.time.writtenNano ++ offsetChars t.offset) =
      .ok ((t.clock.time.writtenNano : Int), offsetChars t.offset) := by
    obtain ⟨c, rest, hcons, hdigit, hpoint⟩ := offsetChars_eq_cons t.offset
    rw [hcons, scanPointed_fractionChars c rest t.clock.time.writtenNano_lt hdigit hpoint]
  have hclock : clockTime t.clock.time.hour t.clock.time.minute t.clock.time.writtenSecond
      t.clock.time.writtenNano = some t.readBack.clock.time :=
    t.clock.time.clockTime_written
  have hoffset := scanOffset_offsetChars t.offset hminutes t.offset_lt
  have hlocal : ofLocal? ⟨t.clock.date, t.readBack.clock.time⟩ t.offset = some t.readBack := by
    apply ofLocal?_clock t.readBack
    · show minYear < t.clock.date.year
      rw [minYear]
      omega
    · show t.clock.date.year < maxYear
      rw [maxYear]
      omega
  unfold readRfc3339
  rw [if_neg hbytes]
  simp only [hdate, hymd, hseparator, htime, hfraction, Int.toNat_natCast, hclock, hoffset, hlocal,
    orOutOfRange, bind, Except.bind, ↓reduceIte]

theorem isBlank_of_mem_padded (width n : Nat) : ∀ c ∈ padded width n, Text.isBlank c = false :=
  fun c hc => Number.isBlank_of_isDigit c (isDigit_of_mem_padded width n c hc)

theorem isBlank_of_mem_yearChars (year : Int) :
    ∀ c ∈ yearChars year, Text.isBlank c = false := by
  have hpadded := isBlank_of_mem_padded
  unfold yearChars
  split
  · exact hpadded 4 _
  · split
    · exact List.forall_mem_cons.mpr ⟨by decide, hpadded 4 _⟩
    · exact List.forall_mem_cons.mpr ⟨by decide, hpadded 4 _⟩

theorem isBlank_of_mem_chars (t : Timestamp) : ∀ c ∈ t.chars, Text.isBlank c = false := by
  have hpadded := isBlank_of_mem_padded
  have hyear := isBlank_of_mem_yearChars t.clock.date.year
  have hfraction : ∀ nano, ∀ c ∈ fractionChars nano, Text.isBlank c = false := by
    intro nano
    unfold fractionChars
    split
    · exact List.forall_mem_nil _
    · split
      · exact List.forall_mem_cons.mpr ⟨by decide, hpadded 3 _⟩
      · split
        · exact List.forall_mem_cons.mpr ⟨by decide, hpadded 6 _⟩
        · exact List.forall_mem_cons.mpr ⟨by decide, hpadded 9 _⟩
  have hoffset : ∀ c ∈ offsetChars t.offset, Text.isBlank c = false := by
    unfold offsetChars
    split
    · exact List.forall_mem_singleton.mpr (by decide)
    · refine List.forall_mem_cons.mpr ⟨by split <;> decide, List.forall_mem_append.mpr
        ⟨hpadded 2 _, List.forall_mem_cons.mpr ⟨by decide, hpadded 2 _⟩⟩⟩
  have hyphen : Text.isBlank '-' = false := by decide
  have hcolon : Text.isBlank ':' = false := by decide
  have hseparator : Text.isBlank 'T' = false := by decide
  simp only [chars, dateChars, timeChars, List.forall_mem_append, List.forall_mem_cons]
  exact ⟨⟨hyear, hyphen, hpadded 2 _, hyphen, hpadded 2 _⟩, hseparator,
    ⟨hpadded 2 _, hcolon, hpadded 2 _, hcolon, hpadded 2 _, hfraction _⟩, hoffset⟩

end Timestamp

end Fieldwise.Calendar

namespace Fieldwise

open Calendar (TimeOfDay Timestamp)

/-- The text form of a timestamp of four digits of the year and whole minutes of the offset, with
any blanks around it, is read as that timestamp. That of a leap second inside a minute is read as
the second after it. The constraint takes both for a date and time. -/
theorem timestamp_text_reads_back (t : Timestamp) (before after : List Char)
    (hyear : 0 ≤ t.clock.date.year ∧ t.clock.date.year ≤ 9999) (hminutes : t.offset % 60 = 0)
    (hbefore : Text.Blank before) (hafter : Text.Blank after) :
    let shown : Value := .text (String.ofList (before ++ (Value.timestamp t).chars ++ after))
    (¬t.clock.time.IsInnerLeap → shown.toTimestamp .dateTime = .ok t) ∧
    (∀ h : t.clock.time.IsInnerLeap, shown.toTimestamp .dateTime =
      .ok ⟨⟨t.clock.date, t.clock.time.afterLeap h⟩, t.offset, t.offset_lt⟩) ∧
    ∀ (options : Options) (field : String) (override : Option String),
      (Constraints.check options field [⟨.timeFormat .dateTime, override⟩] (some shown)).value =
        [] := by
  intro shown
  have hchars : shown.chars = before ++ t.chars ++ after := String.toList_ofList
  have htrim : Text.trim shown.chars = t.chars := by
    rw [hchars, Text.trim_pad before t.chars after hbefore hafter,
      Text.trim_eq_self t.chars t.isBlank_of_mem_chars]
  have hread : shown.toTimestamp .dateTime = .ok t.readBack := by
    have hlayout : Calendar.Layout.dateTime.read t.chars = .ok t.readBack :=
      t.readRfc3339_chars hyear hminutes
    rw [Value.toTimestamp_of_timeless shown .dateTime rfl, htrim, hlayout]
  refine ⟨?_, ?_, ?_⟩
  · intro houter
    rw [hread, Timestamp.readBack_of_not_innerLeap t houter]
  · intro hinner
    rw [hread, Timestamp.readBack, dif_pos hinner]
  · intro options field override
    have hne : t.chars ≠ [] := by
      intro hnil
      have hlength := t.length_chars hyear
      rw [hnil] at hlength
      exact absurd hlength (by decide)
    have hfilled : shown.isEmpty = false := Value.isEmpty_text_append before after hne
    have hholds : Rule.Holds shown (.timeFormat .dateTime) := by
      rw [Rule.Holds, hread]
      rfl
    rw [Constraints.value_check_alone options field (.timeFormat .dateTime) override shown hfilled
      not_false, if_pos hholds]

/-- The leap second at the end of 2016, seen west of Greenwich, with blanks around it. -/
theorem leap_second_reads_back :
    let t : Timestamp := ⟨⟨⟨2016, 12, 31, by decide⟩,
      ⟨18, 59, 59, 1500000000, by decide, by decide, by decide, by decide⟩⟩, -18000, by decide⟩
    let shown : Value := .text " 2016-12-31T18:59:60.500-05:00\n"
    shown.toTimestamp .dateTime = .ok t := by
  intro t shown
  have hreads := timestamp_text_reads_back t [' '] ['\n'] (by decide) (by decide) (by decide)
    (by decide)
  have htext : String.ofList ([' '] ++ (Value.timestamp t).chars ++ ['\n']) =
      " 2016-12-31T18:59:60.500-05:00\n" := by decide
  rw [htext] at hreads
  exact hreads.1 (by decide)

/-- The leap second inside a minute is not read back. -/
theorem inner_leap_second_not_read_back :
    ¬∀ t : Timestamp, 0 ≤ t.clock.date.year ∧ t.clock.date.year ≤ 9999 → t.offset % 60 = 0 →
      (Value.text (Value.timestamp t).toText).toTimestamp .dateTime = .ok t := by
  intro hreads
  let t : Timestamp := ⟨⟨⟨2016, 12, 31, by decide⟩,
    ⟨23, 59, 29, 1500000000, by decide, by decide, by decide, by decide⟩⟩, 0, by decide⟩
  have hsame := hreads t (by decide) (by decide)
  have hnext : (Value.text (Value.timestamp t).toText).toTimestamp .dateTime =
      .ok ⟨⟨⟨2016, 12, 31, by decide⟩,
        ⟨23, 59, 30, 500000000, by decide, by decide, by decide, by decide⟩⟩, 0, by decide⟩ := by
    decide
  rw [hnext] at hsame
  exact absurd hsame (by decide)

end Fieldwise
