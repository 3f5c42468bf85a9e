import Fieldwise.Calendar.Reading
import Fieldwise.Proofs.Outcomes

/-!
# Readings that do not fail because of the layout

Of all that reading a text calls, only the item of a directive that does not exist fails with
the reason that names the layout. Scanning, setting fields and resolving them fail for other
reasons, and so does reading with items that are all directives.
-/

namespace Fieldwise.Calendar

/-- The reading does not fail because of the layout. -/
abbrev Blameless {α : Type} (reading : Except ReadError α) : Prop := Avoids .badLayout reading

/-! ### Scanners -/

theorem blameless_scanNumber (least : Nat) (most : Option Nat) (cs : List Char) :
    Blameless (scanNumber least most cs) :=
  .ite (.error nofun) (.ite (.error nofun) (.ite (.ok _) (.error nofun)))

theorem blameless_scanChar (c : Char) (cs : List Char) : Blameless (scanChar c cs) := by
  cases cs with
  | nil => exact .error nofun
  | cons d cs => exact .ite (.ok _) (.error nofun)

theorem blameless_scanFraction (cs : List Char) : Blameless (scanFraction cs) :=
  (blameless_scanNumber 1 (some 9) cs).bind fun _ => .ok _

theorem blameless_scanFractionOf (digits : Nat) (cs : List Char) :
    Blameless (scanFractionOf digits cs) :=
  (blameless_scanNumber digits (some digits) cs).bind fun _ => .ok _

theorem blameless_scanName (names : List (String × String)) (full : Bool) (cs : List Char) :
    Blameless (scanName names full cs) := by
  refine .ite (.error nofun) ?_
  dsimp only
  split
  · exact .ok _
  · exact .error nofun

theorem blameless_scanHalf (cs : List Char) : Blameless (scanHalf cs) := by
  refine .ite (.error nofun) ?_
  split
  · exact .ok _
  · exact .ok _
  · exact .error nofun

theorem blameless_twoDigits (cs : List Char) : Blameless (twoDigits cs) := by
  refine .ite (.error nofun) ?_
  split
  · exact .ite (.ok _) (.error nofun)
  · exact .error nofun

theorem blameless_scanOffset {separator : List Char → Except ReadError (List Char)}
    (hseparator : ∀ cs, Blameless (separator cs)) (zulu short : Bool) (cs : List Char) :
    Blameless (scanOffset separator zulu short cs) := by
  cases cs with
  | nil => exact .error nofun
  | cons c rest =>
    refine .ite (.ok _) (.ite (.error nofun) ?_)
    refine (blameless_twoDigits rest).bind fun _ => (hseparator _).bind fun rest => ?_
    -- The minutes come in three ways, and what follows is the same after each.
    refine .ite (.ite (Avoids.bind (.ok _) ?_) (Avoids.bind (.error nofun) ?_))
      ((blameless_twoDigits rest).bind ?_)
    all_goals exact fun minutes => .ite (.error nofun) (.ok _)

theorem blameless_scanLiteral (literal cs : List Char) : Blameless (scanLiteral literal cs) := by
  refine .ite (.error nofun) ?_
  split
  · exact .ok _
  · exact .error nofun

theorem blameless_scanT (cs : List Char) : Blameless (scanT cs) := by
  cases cs with
  | nil => exact .error nofun
  | cons c cs => exact .ite (.ok _) (.error nofun)

theorem blameless_scan (field : NumberField) (cs : List Char) : Blameless (field.scan cs) := by
  refine .ite ?_ (blameless_scanNumber _ _ _)
  split
  · exact (blameless_scanNumber _ _ _).bind fun _ => .ok _
  · exact blameless_scanNumber _ _ _
  · exact blameless_scanNumber _ _ _

/-! ### Fields -/

theorem blameless_agree {α : Type} [DecidableEq α] (old : Option α) (value : α) :
    Blameless (agree old value) := by
  cases old with
  | none => exact .ok _
  | some earlier => exact .ite (.ok _) (.error nofun)

theorem blameless_inRange (low high value : Int) : Blameless (inRange low high value) :=
  .ite (.ok _) (.error nofun)

theorem blameless_natInRange (low high : Nat) (value : Int) :
    Blameless (natInRange low high value) :=
  (blameless_inRange low high value).map

theorem blameless_setAfternoon (f : Fields) (afternoon : Bool) :
    Blameless (f.setAfternoon afternoon) :=
  (blameless_agree _ _).bind fun _ => .ok _

theorem blameless_setWeekday (f : Fields) (day : Weekday) : Blameless (f.setWeekday day) :=
  (blameless_agree _ _).bind fun _ => .ok _

theorem blameless_set (f : Fields) (field : NumberField) (n : Int) : Blameless (f.set field n) := by
  cases field with
  | timestamp => exact (blameless_agree _ _).bind fun _ => .ok _
  | weekdayFromSunday | weekdayFromMonday =>
    exact (blameless_natInRange _ _ _).bind fun _ => blameless_setWeekday f _
  | hour =>
    refine (blameless_natInRange _ _ _).bind fun _ => ?_
    exact (blameless_agree _ _).bind fun _ => (blameless_agree _ _).bind fun _ => .ok _
  | year | century | yearOfCentury | isoYear | isoYearOfCentury | offset =>
    exact (blameless_inRange _ _ _).bind fun _ => (blameless_agree _ _).bind fun _ => .ok _
  | _ => exact (blameless_natInRange _ _ _).bind fun _ => (blameless_agree _ _).bind fun _ => .ok _

theorem blameless_readInto (field : NumberField) (f : Fields)
    {found : Except ReadError (Int × List Char)} (hfound : Blameless found) :
    Blameless (readInto field f found) :=
  hfound.bind fun _ => (blameless_set _ _ _).bind fun _ => .ok _

theorem blameless_readNumber (field : NumberField) (f : Fields) (cs : List Char) :
    Blameless (readNumber field f cs) :=
  (blameless_scan field cs).bind fun _ => (blameless_set _ _ _).bind fun _ => .ok _

theorem blameless_readSpaced (separator : Char) (f : Fields) (cs : List Char)
    (fields : List NumberField) : Blameless (readSpaced separator f cs fields) := by
  fun_induction readSpaced separator f cs fields with
  | case1 => exact .ok _
  | case2 => exact blameless_readNumber _ _ _
  | case3 f cs field rest hrest ih =>
    refine (blameless_readNumber _ _ _).bind fun _ => ?_
    exact (blameless_scanLiteral _ _).bind fun _ => ih _ _

theorem blameless_readFraction (f : Fields) (cs : List Char) : Blameless (readFraction f cs) := by
  unfold readFraction
  split
  · exact blameless_readInto _ _ (blameless_scanFraction _)
  · exact .ok _

theorem blameless_skipColons (cs : List Char) : Blameless (skipColons cs) := .ok _

theorem blameless_readInternetTime (f : Fields) (cs : List Char) :
    Blameless (readInternetTime f cs) := by
  refine (blameless_readSpaced _ _ _ _).bind fun _ => (blameless_scanT _).bind fun _ => ?_
  refine (blameless_readSpaced _ _ _ _).bind fun _ => (blameless_readFraction _ _).bind fun _ => ?_
  dsimp only
  split
  · exact blameless_readInto _ _ (.ok _)
  · exact blameless_readInto _ _ (blameless_scanOffset blameless_skipColons _ _ _)

/-! ### Items -/

theorem blameless_read {item : LayoutItem} (hitem : item ≠ .invalid) (f : Fields)
    (cs : List Char) : Blameless (item.read f cs) := by
  cases item with
  | literal text => exact (blameless_scanLiteral _ _).bind fun _ => .ok _
  | blank | zoneName => exact .ok _
  | number field => exact blameless_readNumber _ _ _
  | monthName full =>
    exact (blameless_scanName _ _ _).bind fun _ => (blameless_set _ _ _).bind fun _ => .ok _
  | weekdayName full =>
    exact (blameless_scanName _ _ _).bind fun _ => (blameless_setWeekday _ _).bind fun _ => .ok _
  | halfOfDay =>
    exact (blameless_scanHalf _).bind fun _ => (blameless_setAfternoon _ _).bind fun _ => .ok _
  | fraction => exact blameless_readFraction _ _
  | pointedFraction digits =>
    simp only [LayoutItem.read]
    split
    · exact blameless_readInto _ _ (blameless_scanFractionOf _ _)
    · exact .ok _
  | bareFraction digits => exact blameless_readInto _ _ (blameless_scanFractionOf _ _)
  | offset lenient => exact blameless_readInto _ _ (blameless_scanOffset blameless_skipColons _ _ _)
  | internetTime => exact blameless_readInternetTime _ _
  | invalid => exact absurd rfl hitem

theorem blameless_readItems {items : List LayoutItem} (hitems : .invalid ∉ items) (f : Fields)
    (cs : List Char) : Blameless (readItems f cs items) := by
  induction items generalizing f cs with
  | nil => exact .ok _
  | cons item items ih =>
    rw [List.mem_cons, not_or] at hitems
    exact (blameless_read (Ne.symm hitems.1) f cs).bind fun _ => ih hitems.2 _ _

theorem blameless_readFields {items : List LayoutItem} (hitems : .invalid ∉ items)
    (cs : List Char) : Blameless (readFields items cs) :=
  (blameless_readItems hitems _ _).bind fun _ => .ite (.ok _) (.error nofun)

/-! ### What the fields determine -/

theorem blameless_resolveYear (year century ofCentury : Option Int) :
    Blameless (Fields.resolveYear year century ofCentury) := by
  unfold Fields.resolveYear
  split
  · exact .ok _
  · exact .ite (.ok _) (.error nofun)
  · exact .ite (.ok _) (.error nofun)
  · exact .ok _
  · exact .error nofun

theorem blameless_weekDate (year : Int) (week : Nat) (day start : Weekday) :
    Blameless (Fields.weekDate year week day start) := by
  refine .ite (.error nofun) ?_
  split
  · exact .ok _
  · exact .error nofun

theorem blameless_dated (found : Option Date) : Blameless (Fields.dated found) := by
  cases found with
  | none => exact .error nofun
  | some d => exact .ok _

theorem blameless_candidate (f : Fields) : Blameless f.candidate := by
  refine (blameless_resolveYear _ _ _).bind fun _ => (blameless_resolveYear _ _ _).bind fun _ => ?_
  split
  · exact (blameless_dated _).bind fun _ => .ok _
  · exact (blameless_dated _).bind fun _ => .ok _
  · exact (blameless_weekDate _ _ _ _).bind fun _ => .ok _
  · exact (blameless_weekDate _ _ _ _).bind fun _ => .ok _
  · exact (blameless_dated _).bind fun _ => .ok _
  · exact .error nofun

theorem blameless_date (f : Fields) : Blameless f.date :=
  (blameless_candidate f).bind fun _ => .ite (.ok _) (.error nofun)

theorem blameless_need {α : Type} (given : Option α) : Blameless (Fields.need given) := by
  cases given with
  | none => exact .error nofun
  | some a => exact .ok _

theorem blameless_time (f : Fields) : Blameless f.time := by
  refine (blameless_need _).bind fun _ => (blameless_need _).bind fun _ => ?_
  refine (blameless_need _).bind fun _ => .ite (.error nofun) ?_
  dsimp only
  split
  · exact .ok _
  · exact .error nofun

theorem blameless_fillFrom (f : Fields) (seconds : Int) : Blameless (f.fillFrom seconds) := by
  -- What follows the second of the minute is the same on every branch.
  have hdate (found : Fields × LocalTime) : Blameless (do
      let f ← found.1.set .year found.2.date.year
      let f ← f.set .ordinal found.2.date.ordinal
      let f ← f.set .hour found.2.time.hour
      f.set .minute found.2.time.minute) := by
    refine (blameless_set _ _ _).bind fun _ => (blameless_set _ _ _).bind fun _ => ?_
    exact (blameless_set _ _ _).bind fun _ => blameless_set _ _ _
  refine Avoids.bind ?clock fun t => .ite (.ite ?_ (.ite (Avoids.bind ?before fun _ => ?_) ?_)) ?_
  case clock | before =>
    dsimp only
    split
    · exact .ok _
    · exact .error nofun
  · exact Avoids.bind (.ok _) hdate
  · exact Avoids.bind (.ok _) hdate
  · exact Avoids.bind (.error nofun) hdate
  · exact (blameless_set _ _ _).bind fun _ => Avoids.bind (.ok _) hdate

theorem blameless_localTime (f : Fields) (offset : Int) : Blameless (f.localTime offset) := by
  unfold Fields.localTime
  split
  · exact .ite (.ok _) (.error nofun)
  · refine .ite (.error nofun) (.ite (.error nofun) ?_)
    refine (blameless_fillFrom _ _).bind fun _ => ?_
    exact (blameless_date _).bind fun _ => (blameless_time _).bind fun _ => .ok _
  · exact (blameless_date _).bind fun _ => (blameless_time _).bind fun _ => .ok _

theorem blameless_zoned (f : Fields) : Blameless f.zoned := by
  unfold Fields.zoned
  split
  all_goals
    apply Avoids.bind
    case hf =>
      intro offset
      refine (blameless_localTime f offset).bind fun clock => .ite (.error nofun) ?_
      split
      · exact .ok _
      · exact .error nofun
  · exact .ok _
  · exact .ok _
  · exact .error nofun

theorem blameless_readCustom {items : List LayoutItem} (hitems : .invalid ∉ items)
    (cs : List Char) : Blameless (readCustom items cs) := by
  refine (blameless_readFields hitems cs).bind fun f => ?_
  split
  · exact .ok _
  · exact .ok _
  · exact .ok _
  · exact .ok _
  · rename_i e hzoned _ _ _
    exact .error fun heq => blameless_zoned f (heq ▸ hzoned)

/-! ### RFC 3339 -/

theorem blameless_scanDigits (count : Nat) (cs : List Char) : Blameless (scanDigits count cs) :=
  .ite (.ok _) (.error nofun)

theorem blameless_scanTriple (separator : Char) (digits : Nat) (cs : List Char) :
    Blameless (scanTriple separator digits cs) := by
  refine (blameless_scanDigits _ _).bind fun _ => (blameless_scanChar _ _).bind fun _ => ?_
  refine (blameless_scanDigits _ _).bind fun _ => (blameless_scanChar _ _).bind fun _ => ?_
  exact (blameless_scanDigits _ _).bind fun _ => .ok _

theorem blameless_scanPointed (cs : List Char) : Blameless (scanPointed cs) := by
  unfold scanPointed
  split
  · exact blameless_scanFraction _
  · exact .ok _

theorem blameless_orOutOfRange {α : Type} (found : Option α) : Blameless (orOutOfRange found) := by
  cases found with
  | none => exact .error nofun
  | some a => exact .ok _

theorem blameless_readRfc3339 (cs : List Char) : Blameless (readRfc3339 cs) := by
  refine .ite (.error nofun) ((blameless_scanTriple _ _ _).bind fun _ => ?_)
  refine (blameless_orOutOfRange _).bind fun _ => (blameless_scanT _).bind fun _ => ?_
  refine (blameless_scanTriple _ _ _).bind fun _ => (blameless_scanPointed _).bind fun _ => ?_
  refine (blameless_orOutOfRange _).bind fun _ => ?_
  refine (blameless_scanOffset (blameless_scanChar ':') _ _ _).bind fun _ => ?_
  exact .ite (blameless_orOutOfRange _) (.error nofun)

end Fieldwise.Calendar
