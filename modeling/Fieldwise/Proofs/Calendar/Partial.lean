import Fieldwise.Proofs.Outcomes
import Fieldwise.Proofs.TextForms

/-!
# Fields that give a part of a point in time

A number that is read sets its own field and leaves the others alone. So what a layout does not
ask for is not there afterwards: without an offset there is no timestamp, without an hour no time
of day, without a year no date. A custom layout tries all of them in turn, and where only one is
there it agrees with the layout that asks for this one.
-/

namespace Fieldwise.Calendar

/-! ### What a number sets -/

/-- A field from which the year of a date can come. -/
def NumberField.isYear : NumberField → Bool
  | year | century | yearOfCentury | isoYear | isoYearOfCentury => true
  | _ => false

namespace Fields

/-- The fields from which the year of a date can come. -/
def years (f : Fields) : List (Option Int) :=
  [f.year, f.century, f.yearOfCentury, f.isoYear, f.isoYearOfCentury]

theorem set_frame {f g : Fields} {field : NumberField} {n : Int}
    (h : f.set field n = .ok g) :
    (field ≠ .offset → g.offset = f.offset) ∧
      (field ≠ .timestamp → g.timestamp = f.timestamp) ∧
      (field ≠ .hour → g.afternoon = f.afternoon) ∧
      (field.isYear = false → g.years = f.years) := by
  cases field with
  | timestamp =>
    obtain ⟨_, _, h⟩ := exists_of_bind_eq_ok _ _ _ h
    cases h
    exact ⟨fun _ => rfl, fun hne => absurd rfl hne, fun _ => rfl, fun _ => rfl⟩
  | offset =>
    obtain ⟨_, _, h⟩ := exists_of_bind_eq_ok _ _ _ h
    obtain ⟨_, _, h⟩ := exists_of_bind_eq_ok _ _ _ h
    cases h
    exact ⟨fun hne => absurd rfl hne, fun _ => rfl, fun _ => rfl, fun _ => rfl⟩
  | hour =>
    obtain ⟨_, _, h⟩ := exists_of_bind_eq_ok _ _ _ h
    obtain ⟨_, _, h⟩ := exists_of_bind_eq_ok _ _ _ h
    obtain ⟨_, _, h⟩ := exists_of_bind_eq_ok _ _ _ h
    cases h
    exact ⟨fun _ => rfl, fun _ => rfl, fun hne => absurd rfl hne, fun _ => rfl⟩
  | year | century | yearOfCentury | isoYear | isoYearOfCentury =>
    obtain ⟨_, _, h⟩ := exists_of_bind_eq_ok _ _ _ h
    obtain ⟨_, _, h⟩ := exists_of_bind_eq_ok _ _ _ h
    cases h
    exact ⟨fun _ => rfl, fun _ => rfl, fun _ => rfl, fun hyear => by cases hyear⟩
  | _ =>
    obtain ⟨_, _, h⟩ := exists_of_bind_eq_ok _ _ _ h
    obtain ⟨_, _, h⟩ := exists_of_bind_eq_ok _ _ _ h
    cases h
    exact ⟨fun _ => rfl, fun _ => rfl, fun _ => rfl, fun _ => rfl⟩

/-! ### Parts that are not there -/

/-- Neither an offset nor a count of seconds is there. -/
def Unzoned (f : Fields) : Prop := f.offset = none ∧ f.timestamp = none

/-- The half of the day is not there. -/
def Untimed (f : Fields) : Prop := f.afternoon = none

/-- No year is there. -/
def Undated (f : Fields) : Prop := ∀ year ∈ f.years, year = none

variable {f : Fields}

theorem zoned_of_unzoned (h : f.Unzoned) : f.zoned = .error .notEnough := by
  simp only [zoned, h.1, h.2]
  rfl

theorem localTime_of_unzoned (h : f.Unzoned) (offset : Int) :
    f.localTime offset = (do return ⟨← f.date, ← f.time⟩) := by
  unfold localTime
  cases f.date with
  | error e => simp only [h.2]
  | ok date =>
    cases f.time with
    | error e => simp only [h.2]
    | ok time =>
      simp only [h.2, Option.all_none]
      rfl

theorem time_of_untimed (h : f.Untimed) : f.time = .error .notEnough := by
  have hafternoon : f.afternoon = none := h
  simp only [time, hafternoon]
  rfl

theorem date_of_undated (h : f.Undated) : f.date = .error .notEnough := by
  obtain ⟨hyear, hcentury, hofCentury, hisoYear, hisoOfCentury⟩ : f.year = none ∧
      f.century = none ∧ f.yearOfCentury = none ∧ f.isoYear = none ∧ f.isoYearOfCentury = none := by
    simpa [Undated, years] using h
  simp only [date, candidate, hyear, hcentury, hofCentury, hisoYear, hisoOfCentury, resolveYear]
  rfl

end Fields

/-! ### What reading keeps -/

/-- Reading the item does not end what is so of the fields. -/
def LayoutItem.Keeps (P : Fields → Prop) (item : LayoutItem) : Prop :=
  ∀ f cs g rest, P f → item.read f cs = .ok (g, rest) → P g

section

variable {P : Fields → Prop}

theorem keeps_blank : LayoutItem.blank.Keeps P := by
  intro f cs g rest hf h
  cases h
  exact hf

theorem keeps_literal (text : List Char) : (LayoutItem.literal text).Keeps P := by
  intro f cs g rest hf h
  obtain ⟨_, _, h⟩ := exists_of_bind_eq_ok _ _ _ h
  cases h
  exact hf

theorem keeps_number {field : NumberField}
    (hset : ∀ f n g, P f → f.set field n = .ok g → P g) : (LayoutItem.number field).Keeps P := by
  intro f cs g rest hf h
  obtain ⟨⟨n, _⟩, _, h⟩ := exists_of_bind_eq_ok _ _ _ h
  obtain ⟨found, hfound, h⟩ := exists_of_bind_eq_ok _ _ _ h
  cases h
  exact hset f n _ hf hfound

theorem keeps_separated (separator : String) {fields : List NumberField}
    (hfields : ∀ field ∈ fields, (LayoutItem.number field).Keeps P) :
    ∀ item ∈ LayoutItem.separated separator fields, item.Keeps P := by
  fun_induction LayoutItem.separated separator fields with
  | case1 => exact List.forall_mem_nil _
  | case2 field => exact List.forall_mem_singleton.mpr (hfields field (List.mem_singleton_self _))
  | case3 field rest hrest ih =>
    have hfirst := hfields field (List.mem_cons_self ..)
    have hothers := ih fun other hother => hfields other (List.mem_cons_of_mem _ hother)
    exact List.forall_mem_cons.mpr ⟨hfirst, List.forall_mem_cons.mpr ⟨keeps_literal _, hothers⟩⟩

theorem readItems_keeps {items : List LayoutItem} (hitems : ∀ item ∈ items, item.Keeps P)
    {f g : Fields} {cs rest : List Char} (hf : P f) (h : readItems f cs items = .ok (g, rest)) :
    P g := by
  induction items generalizing f cs with
  | nil =>
    cases h
    exact hf
  | cons item items ih =>
    obtain ⟨⟨next, after⟩, hitem, h⟩ := exists_of_bind_eq_ok _ _ _ h
    have hnext := hitems item (List.mem_cons_self ..) f cs next after hf hitem
    exact ih (fun other hother => hitems other (List.mem_cons_of_mem _ hother)) hnext h

theorem readFields_keeps {items : List LayoutItem} (hitems : ∀ item ∈ items, item.Keeps P)
    (hstart : P {}) {f : Fields} {cs : List Char} (h : readFields items cs = .ok f) : P f := by
  obtain ⟨⟨found, rest⟩, hread, h⟩ := exists_of_bind_eq_ok _ _ _ h
  have hend : (if rest = [] then .ok found else .error ReadError.tooLong) = Except.ok f := h
  split at hend
  · cases hend
    exact readItems_keeps hitems hstart hread
  · cases hend

end

theorem unzoned_empty : Fields.Unzoned {} := ⟨rfl, rfl⟩

theorem untimed_empty : Fields.Untimed {} := rfl

theorem undated_empty : Fields.Undated {} := by
  simp [Fields.Undated, Fields.years]

/-! ### Custom layouts for a part -/

theorem readCustom_of_untimed {items : List LayoutItem} {cs : List Char} {f : Fields}
    (hread : readFields items cs = .ok f) (hzone : f.Unzoned) (htime : f.Untimed) :
    readCustom items cs =
      match f.date with
      | .ok date => .ok (.utc ⟨date, .midnight⟩)
      | .error _ => .error .notEnough := by
  simp only [readCustom, hread, bind, Except.bind, Fields.zoned_of_unzoned hzone,
    Fields.localTime_of_unzoned hzone, Fields.time_of_untimed htime]
  cases f.date with
  | error e => rfl
  | ok date => rfl

theorem readCustom_of_undated {items : List LayoutItem} {cs : List Char} {f : Fields}
    (hread : readFields items cs = .ok f) (hzone : f.Unzoned) (hdate : f.Undated) :
    readCustom items cs =
      match f.time with
      | .ok time => .ok (.utc ⟨.epochDay, time⟩)
      | .error _ => .error .notEnough := by
  simp only [readCustom, hread, bind, Except.bind, Fields.zoned_of_unzoned hzone,
    Fields.localTime_of_unzoned hzone, Fields.date_of_undated hdate]
  cases f.time with
  | error e => rfl
  | ok time => rfl

/-! ### The patterns of the layouts for a part -/

section

variable {separator : String} {fields : List NumberField} {cs : List Char} {f : Fields}
  (h : readFields (LayoutItem.separated separator fields) cs = .ok f)

include h

theorem unzoned_of_readFields (hfields : ∀ field ∈ fields, field ≠ .offset ∧ field ≠ .timestamp) :
    f.Unzoned := by
  refine readFields_keeps (keeps_separated separator fun field hfield => ?_) unzoned_empty h
  apply keeps_number
  intro f n g hf hset
  obtain ⟨hoffset, htimestamp, _⟩ := Fields.set_frame hset
  obtain ⟨hneOffset, hneTimestamp⟩ := hfields field hfield
  exact ⟨(hoffset hneOffset).trans hf.1, (htimestamp hneTimestamp).trans hf.2⟩

theorem untimed_of_readFields (hfields : ∀ field ∈ fields, field ≠ .hour) : f.Untimed := by
  refine readFields_keeps (keeps_separated separator fun field hfield => ?_) untimed_empty h
  apply keeps_number
  intro f n g hf hset
  exact ((Fields.set_frame hset).2.2.1 (hfields field hfield)).trans hf

theorem undated_of_readFields (hfields : ∀ field ∈ fields, field.isYear = false) : f.Undated := by
  refine readFields_keeps (keeps_separated separator fun field hfield => ?_) undated_empty h
  apply keeps_number
  intro f n g hf hset
  rw [Fields.Undated, (Fields.set_frame hset).2.2.2 (hfields field hfield)]
  exact hf

end

theorem ofLayout_datePattern :
    LayoutItem.ofLayout "%Y-%m-%d".toList = LayoutItem.separated "-" [.year, .month, .day] := by
  decide +kernel

theorem ofLayout_timePattern :
    LayoutItem.ofLayout "%H:%M:%S".toList =
      LayoutItem.separated ":" [.hour, .minute, .second] := by
  decide +kernel

theorem read_datePattern_iff (cs : List Char) (t : Timestamp) :
    (Layout.custom "%Y-%m-%d").read cs = .ok t ↔ Layout.date.read cs = .ok t := by
  simp only [Layout.read, ofLayout_datePattern]
  cases hread : readFields (LayoutItem.separated "-" [.year, .month, .day]) cs with
  | error e =>
    rw [readCustom, hread]
    rfl
  | ok f =>
    rw [readCustom_of_untimed hread (unzoned_of_readFields hread (by decide))
      (untimed_of_readFields hread (by decide))]
    cases hdate : f.date with
    | error e => simp [hdate, bind, Except.bind]
    | ok date => simp [hdate, bind, Except.bind, pure, Except.pure]

theorem read_timePattern_iff (cs : List Char) (t : Timestamp) :
    (Layout.custom "%H:%M:%S").read cs = .ok t ↔ Layout.time.read cs = .ok t := by
  simp only [Layout.read, ofLayout_timePattern]
  cases hread : readFields (LayoutItem.separated ":" [.hour, .minute, .second]) cs with
  | error e =>
    rw [readCustom, hread]
    rfl
  | ok f =>
    rw [readCustom_of_undated hread (unzoned_of_readFields hread (by decide))
      (undated_of_readFields hread (by decide))]
    cases htime : f.time with
    | error e => simp [htime, bind, Except.bind]
    | ok time => simp [htime, bind, Except.bind, pure, Except.pure]

end Fieldwise.Calendar

namespace Fieldwise

open Calendar (Layout Timestamp)

/-! ### Values in two layouts -/

theorem Value.toTimestamp_of_asTimestamp {v : Value} {t : Timestamp} (layout : Layout)
    (h : v.asTimestamp = some t) : v.toTimestamp layout = .ok t := by
  cases v with
  | timestamp native =>
    cases h
    rfl
  | _ => cases h

theorem Value.toTimestamp_eq_ok_iff (v : Value) (layout : Layout) (t : Timestamp)
    (h : v.asTimestamp = none) :
    v.toTimestamp layout = .ok t ↔ layout.read (Text.trim v.chars) = .ok t := by
  rw [v.toTimestamp_of_timeless layout h]
  cases layout.read (Text.trim v.chars) with
  | ok found => simp
  | error reason => simp

theorem Value.toTimestamp_congr {these those : Layout}
    (hread : ∀ cs t, these.read cs = .ok t ↔ those.read cs = .ok t) (v : Value) (t : Timestamp) :
    v.toTimestamp these = .ok t ↔ v.toTimestamp those = .ok t := by
  cases htime : v.asTimestamp with
  | none =>
    rw [v.toTimestamp_eq_ok_iff these t htime, v.toTimestamp_eq_ok_iff those t htime, hread]
  | some found =>
    rw [Value.toTimestamp_of_asTimestamp these htime, Value.toTimestamp_of_asTimestamp those htime]

theorem Rule.holds_timeFormat_iff (v : Value) (layout : Layout) :
    (Rule.timeFormat layout).Holds v ↔ ∃ t, v.toTimestamp layout = .ok t := by
  rw [Rule.Holds]
  cases v.toTimestamp layout with
  | ok t => simp [Except.isOk, Except.toBool]
  | error e => simp [Except.isOk, Except.toBool]

/-- A value passes the check of one layout if it is missing, empty or shows a point in time. -/
theorem Constraints.value_check_timeFormat_eq_nil_iff (options : Options) (field : String)
    (layout : Layout) (override : Option String) (v : Option Value) :
    (Constraints.check options field [⟨.timeFormat layout, override⟩] v).value = [] ↔
      ∀ w ∈ v, w.isEmpty = false → ∃ t, w.toTimestamp layout = .ok t := by
  cases v with
  | none => simp [Constraints.value_check, Constraints.due, Constraints.dueMissing,
      Constraint.isRequired]
  | some w =>
    cases hempty : w.isEmpty with
    | true =>
      simp [Constraints.value_check, Constraints.due, Constraints.dueMissing,
        Constraint.isRequired, hempty]
    | false =>
      rw [Constraints.value_check_alone options field (.timeFormat layout) override w hempty
        not_false]
      simp [Rule.holds_timeFormat_iff, hempty]

/-- Every value shows the same point in time in both layouts or none in either, so the checks of
the two pass the same values. -/
def Calendar.Layout.AgreesWith (these those : Layout) : Prop :=
  (∀ (v : Value) (t : Timestamp), v.toTimestamp these = .ok t ↔ v.toTimestamp those = .ok t) ∧
  ∀ (options : Options) (field : String) (override override' : Option String) (v : Option Value),
    (Constraints.check options field [⟨.timeFormat these, override⟩] v).value = [] ↔
      (Constraints.check options field [⟨.timeFormat those, override'⟩] v).value = []

theorem Calendar.Layout.agreesWith_of_read {these those : Layout}
    (hread : ∀ cs t, these.read cs = .ok t ↔ those.read cs = .ok t) : these.AgreesWith those := by
  refine ⟨Value.toTimestamp_congr hread, ?_⟩
  intro options field override override' v
  simp only [Constraints.value_check_timeFormat_eq_nil_iff, Value.toTimestamp_congr hread]

/-- The patterns of a date and of a time of day are layouts of one's own that read what the
layouts do whose patterns they are. -/
theorem part_patterns_agree :
    (Layout.date.pattern = some "%Y-%m-%d" ∧
      Constraint.timeFormat? "%Y-%m-%d" = .ok ⟨.timeFormat (.custom "%Y-%m-%d"), none⟩ ∧
      (Layout.custom "%Y-%m-%d").AgreesWith .date) ∧
    (Layout.time.pattern = some "%H:%M:%S" ∧
      Constraint.timeFormat? "%H:%M:%S" = .ok ⟨.timeFormat (.custom "%H:%M:%S"), none⟩ ∧
      (Layout.custom "%H:%M:%S").AgreesWith .time) := by
  have husable : Layout.isUsable "%Y-%m-%d" = true ∧ Layout.isUsable "%H:%M:%S" = true := by
    decide +kernel
  refine ⟨⟨rfl, ?_, Layout.agreesWith_of_read Calendar.read_datePattern_iff⟩,
    ⟨rfl, ?_, Layout.agreesWith_of_read Calendar.read_timePattern_iff⟩⟩
  · exact Constraint.timeFormat?_of_isUsable husable.1
  · exact Constraint.timeFormat?_of_isUsable husable.2

end Fieldwise
