import Fieldwise.Proofs.Calendar.Blameless
import Fieldwise.Proofs.Calendar.Partial
import Fieldwise.Proofs.Log
import Fieldwise.Proofs.RuleText.Normalising
import Fieldwise.Proofs.RuleText.Reading

/-!
# Layouts that are accepted

A layout is refused if it is blank or has a directive that does not exist. With an accepted
layout no reading fails because of the layout. With a refused one every reading fails: at the
directive, or, as a blank layout sets no field, for want of them.
-/

namespace Fieldwise.Calendar

/-! ### Layouts that can be used -/

namespace Layout

/-- A layout of the library, or one of one's own that can be used. -/
def Accepted : Layout → Prop
  | custom layout => isUsable layout = true
  | _ => True

theorem isUsable_iff (layout : String) :
    isUsable layout = true ↔
      ¬Text.Blank layout.toList ∧ .invalid ∉ LayoutItem.ofLayout layout.toList := by
  rw [← Text.trim_eq_nil_iff]
  simp [isUsable]

theorem blameless_read {layout : Layout} (h : layout.Accepted) (cs : List Char) :
    Blameless (layout.read cs) := by
  cases layout with
  | date =>
    have hitems : .invalid ∉ LayoutItem.separated "-" [.year, .month, .day] := by decide
    exact (blameless_readFields hitems cs).bind fun f => (blameless_date f).bind fun _ => .ok _
  | time =>
    have hitems : .invalid ∉ LayoutItem.separated ":" [.hour, .minute, .second] := by decide
    exact (blameless_readFields hitems cs).bind fun f => (blameless_time f).bind fun _ => .ok _
  | dateTime => exact blameless_readRfc3339 cs
  | custom layout => exact blameless_readCustom ((isUsable_iff layout).mp h).2 cs

end Layout

/-! ### Layouts that cannot be used -/

theorem readItems_of_mem_invalid {items : List LayoutItem} (hitems : .invalid ∈ items)
    (f : Fields) (cs : List Char) : ∃ e, readItems f cs items = .error e := by
  induction items generalizing f cs with
  | nil => cases hitems
  | cons item items ih =>
    rcases List.mem_cons.mp hitems with rfl | hrest
    · exact ⟨.badLayout, rfl⟩
    · cases hread : item.read f cs with
      | error e => exact ⟨e, by rw [readItems, hread]; rfl⟩
      | ok found =>
        obtain ⟨e, he⟩ := ih hrest found.1 found.2
        exact ⟨e, by rw [readItems, hread]; exact he⟩

theorem eq_blank_of_mem_ofLayout {cs : List Char} (h : Text.Blank cs) :
    ∀ item ∈ LayoutItem.ofLayout cs, item = .blank := by
  cases cs with
  | nil => simp [LayoutItem.ofLayout]
  | cons c cs =>
    have hc : Text.isBlank c = true := h c (List.mem_cons_self ..)
    have hpercent : c ≠ '%' := by
      rintro rfl
      exact absurd hc (by decide)
    have hrest : cs.dropWhile Text.isBlank = [] :=
      (Text.trimStart_eq_nil_iff cs).mpr fun d hd => h d (List.mem_cons_of_mem _ hd)
    simp [LayoutItem.ofLayout, hc, hpercent, hrest]

theorem readCustom_of_blank {items : List LayoutItem} (hitems : ∀ item ∈ items, item = .blank)
    (cs : List Char) : ∃ e, readCustom items cs = .error e := by
  cases hread : readFields items cs with
  | error e => exact ⟨e, by rw [readCustom, hread]; rfl⟩
  | ok f =>
    have hkeeps : ∀ item ∈ items, item.Keeps (· = {}) := by
      intro item hitem
      rw [hitems item hitem]
      exact keeps_blank
    have hf : f = {} := readFields_keeps hkeeps rfl hread
    subst hf
    rw [readCustom_of_untimed hread unzoned_empty untimed_empty,
      Fields.date_of_undated undated_empty]
    exact ⟨.notEnough, rfl⟩

theorem read_of_not_isUsable {layout : String} (h : Layout.isUsable layout = false)
    (cs : List Char) : ∃ e, (Layout.custom layout).read cs = .error e := by
  by_cases hblank : Text.Blank layout.toList
  · exact readCustom_of_blank (eq_blank_of_mem_ofLayout hblank) cs
  · have hinvalid : .invalid ∈ LayoutItem.ofLayout layout.toList := by
      by_contra hvalid
      rw [(Layout.isUsable_iff layout).mpr ⟨hblank, hvalid⟩] at h
      cases h
    obtain ⟨e, he⟩ := readItems_of_mem_invalid hinvalid {} cs
    exact ⟨e, by rw [Layout.read, readCustom, readFields, he]; rfl⟩

end Fieldwise.Calendar

namespace Fieldwise

open Calendar (Layout ReadError)

/-! ### Constraints with accepted layouts -/

theorem Value.read_of_toTimestamp_eq_error {layout : Layout} {v : Value} {e : CoercionError}
    (h : v.toTimestamp layout = .error e) : layout.read (Text.trim v.chars) = .error e.reason := by
  cases htime : v.asTimestamp with
  | some t =>
    rw [Value.toTimestamp_of_asTimestamp layout htime] at h
    cases h
  | none =>
    rw [v.toTimestamp_of_timeless layout htime] at h
    cases hread : layout.read (Text.trim v.chars) with
    | ok t =>
      rw [hread] at h
      cases h
    | error reason =>
      rw [hread] at h
      cases h
      rfl

theorem message_eq_badLayout_iff (reason : ReadError) :
    reason.message = "bad or unsupported format string" ↔ reason = .badLayout := by
  cases reason <;> simp [ReadError.message]

theorem Value.message_of_accepted {layout : Layout} (h : layout.Accepted) {v : Value}
    {e : CoercionError} (he : v.toTimestamp layout = .error e) :
    e.reason.message ≠ "bad or unsupported format string" := by
  rw [Ne, message_eq_badLayout_iff]
  intro hbad
  have hread := Value.read_of_toTimestamp_eq_error he
  rw [hbad] at hread
  exact Layout.blameless_read h _ hread

/-- The ways to come by a constraint: from rule text, read either way; with a rule that has no
layout of one's own; with such a layout, or any rule, after a check; and with another message. -/
inductive Constraint.Obtainable : Constraint → Prop
  | parsed {text : String} {c : Constraint} (h : c ∈ (RuleText.parse text).value) : c.Obtainable
  | parsedStrictly {text : String} {cs : Constraints} {c : Constraint}
      (h : RuleText.parseStrict text = .ok cs) (hmem : c ∈ cs) : c.Obtainable
  | plain {rule : Rule} (h : ∀ layout, rule ≠ .timeFormat (.custom layout)) :
      Obtainable ⟨rule, none⟩
  | timeFormat {layout : String} {c : Constraint} (h : timeFormat? layout = .ok c) : c.Obtainable
  | ofRule {rule : Rule} {c : Constraint} (h : ofRule? rule = .ok c) : c.Obtainable
  | withMessage {c : Constraint} (h : c.Obtainable) (message : String) :
      (c.withMessage message).Obtainable

namespace Constraint

/-- A layout of one's own passes the same check in a rule as by itself. -/
theorem ofRule?_custom (layout : String) :
    ofRule? (.timeFormat (.custom layout)) = timeFormat? layout := by
  rw [ofRule?, timeFormat?]

theorem isUsable_of_timeFormat?_eq_ok {layout : String} {c : Constraint}
    (h : timeFormat? layout = .ok c) :
    Layout.isUsable layout = true ∧ c = ⟨.timeFormat (.custom layout), none⟩ := by
  cases husable : Layout.isUsable layout with
  | true =>
    rw [timeFormat?_of_isUsable husable] at h
    cases h
    exact ⟨rfl, rfl⟩
  | false =>
    rw [timeFormat?_of_refused husable] at h
    cases h

theorem isUsable_of_timeFormat?_eq_error {layout : String} {refusal : ConstraintError}
    (h : timeFormat? layout = .error refusal) :
    Layout.isUsable layout = false ∧ refusal = .invalidLayout layout := by
  cases husable : Layout.isUsable layout with
  | true =>
    rw [timeFormat?_of_isUsable husable] at h
    cases h
  | false =>
    rw [timeFormat?_of_refused husable] at h
    cases h
    exact ⟨rfl, rfl⟩

theorem rule_of_ofRule? {rule : Rule} {c : Constraint} (h : ofRule? rule = .ok c) :
    c.rule = rule := by
  unfold ofRule? at h
  split at h
  · rename_i layout
    have hlayout : timeFormat? layout = .ok c := h
    rw [(isUsable_of_timeFormat?_eq_ok hlayout).2]
  · split at h
    · cases h
      rfl
    · cases h
  · cases h
    rfl

theorem accepted_of_mem_parse {text : String} {c : Constraint} {layout : Layout}
    (h : c ∈ (RuleText.parse text).value) (hrule : c.rule = .timeFormat layout) :
    layout.Accepted := by
  have hwritable := (RuleText.writable_of_mem_parse text c h).2.2
  rw [hrule] at hwritable
  cases layout with
  | custom layout => exact hwritable.elim
  | _ => trivial

theorem Obtainable.accepted {c : Constraint} (hc : c.Obtainable) {layout : Layout}
    (hrule : c.rule = .timeFormat layout) : layout.Accepted := by
  induction hc with
  | parsed h => exact accepted_of_mem_parse h hrule
  | parsedStrictly h hmem =>
    rw [← RuleText.value_parse_of_parseStrict _ _ h] at hmem
    exact accepted_of_mem_parse hmem hrule
  | plain h =>
    cases layout with
    | custom layout => exact absurd hrule (h layout)
    | _ => trivial
  | timeFormat h =>
    obtain ⟨husable, rfl⟩ := isUsable_of_timeFormat?_eq_ok h
    cases hrule
    exact husable
  | ofRule h =>
    rw [rule_of_ofRule? h] at hrule
    subst hrule
    cases layout with
    | custom layout =>
      rw [ofRule?_custom] at h
      exact (isUsable_of_timeFormat?_eq_ok h).1
    | _ => trivial
  | withMessage h message ih => exact ih hrule

end Constraint

theorem Rule.layout_of_unreadable? {v : Value} {rule : Rule} {e : CoercionError}
    (h : rule.unreadable? v = some e) :
    ∃ layout, rule = .timeFormat layout ∧ v.toTimestamp layout = .error e := by
  unfold Rule.unreadable? at h
  split at h
  · rename_i layout
    refine ⟨layout, rfl, ?_⟩
    split at h
    · cases h
    · rename_i found hfound
      cases h
      exact hfound
  · cases h

theorem Constraint.unreadable?_of_dueEvent? {options : Options} {field : String} {v : Value}
    {c : Constraint} {e : CoercionError}
    (h : c.dueEvent? options field v = some (.coercionFailed e)) :
    c.rule.unreadable? v = some e := by
  unfold Constraint.dueEvent? at h
  split at h
  · split at h
    · cases h
    · cases h
  · obtain ⟨found, hfound, heq⟩ := Option.map_eq_some_iff.mp h
    cases heq
    exact hfound

theorem Constraints.exists_of_coercionFailed {options : Options} {field : String}
    {constraints : Constraints} {v : Option Value} {e : CoercionError}
    (h : .coercionFailed e ∈ (Constraints.check options field constraints v).events) :
    ∃ c ∈ constraints, ∃ (layout : Layout) (w : Value),
      c.rule = .timeFormat layout ∧ w.toTimestamp layout = .error e := by
  rw [Constraints.events_check, Constraints.dueEvents] at h
  cases hasked : constraints.asked? v with
  | none =>
    rw [hasked] at h
    cases hrequired : constraints.isRequired with
    | true => simp [hrequired] at h
    | false => simp [hrequired] at h
  | some w =>
    rw [hasked] at h
    obtain ⟨c, hc, hevent⟩ : ∃ c ∈ constraints, c.dueEvent? options field w =
        some (.coercionFailed e) := by
      simpa using h
    obtain ⟨layout, hrule, hreading⟩ :=
      Rule.layout_of_unreadable? (Constraint.unreadable?_of_dueEvent? hevent)
    exact ⟨c, hc, layout, w, hrule, hreading⟩

/-- Checking a layout and reading with it agree. Both checks give one verdict; reading with a
layout that is accepted never fails because of the layout, and reading anything but a timestamp
with one that is refused always fails. So no check of constraints that can be come by reports a
reading that failed because of its layout. -/
theorem layout_verdict_agrees_with_reading :
    (∀ layout, Constraint.timeFormat? layout =
      Constraint.ofRule? (.timeFormat (.custom layout))) ∧
    (∀ layout c, Constraint.timeFormat? layout = .ok c →
      c = ⟨.timeFormat (.custom layout), none⟩ ∧
      ∀ (v : Value) e, v.toTimestamp (.custom layout) = .error e →
        e.reason.message ≠ "bad or unsupported format string") ∧
    (∀ layout refusal, Constraint.timeFormat? layout = .error refusal →
      refusal = .invalidLayout layout ∧
      ∀ v : Value, v.asTimestamp = none → ∃ e, v.toTimestamp (.custom layout) = .error e) ∧
    ∀ (constraints : Constraints), (∀ c ∈ constraints, c.Obtainable) →
      ∀ (options : Options) (field : String) (v : Option Value) e,
        .coercionFailed e ∈ (Constraints.check options field constraints v).events →
          e.reason.message ≠ "bad or unsupported format string" := by
  refine ⟨fun layout => (Constraint.ofRule?_custom layout).symm, ?_, ?_, ?_⟩
  · intro layout c hc
    obtain ⟨husable, rfl⟩ := Constraint.isUsable_of_timeFormat?_eq_ok hc
    have haccepted : (Layout.custom layout).Accepted := husable
    exact ⟨rfl, fun v e he => Value.message_of_accepted haccepted he⟩
  · intro layout refusal hrefusal
    obtain ⟨hrefused, rfl⟩ := Constraint.isUsable_of_timeFormat?_eq_error hrefusal
    refine ⟨rfl, fun v hv => ?_⟩
    obtain ⟨reason, hreason⟩ := Calendar.read_of_not_isUsable hrefused (Text.trim v.chars)
    exact ⟨_, by rw [v.toTimestamp_of_timeless _ hv, hreason]⟩
  · intro constraints hconstraints options field v e he
    obtain ⟨c, hc, layout, w, hrule, hreading⟩ := Constraints.exists_of_coercionFailed he
    exact Value.message_of_accepted ((hconstraints c hc).accepted hrule) hreading

/-- There is no directive `%Q`, so its layout is refused and reads no text. A seven alone is no
hour and minute and no date, but neither layout is to blame. -/
theorem unknown_directive_refused :
    Constraint.timeFormat? "%Q" = .error (.invalidLayout "%Q") ∧
    (∃ e, (Value.text "7").toTimestamp (.custom "%Q") = .error e) ∧
    Constraint.timeFormat? "%H:%M" = .ok ⟨.timeFormat (.custom "%H:%M"), none⟩ ∧
    (∃ e, (Value.text "7").toTimestamp (.custom "%H:%M") = .error e ∧
      e.reason.message ≠ "bad or unsupported format string") ∧
    (∃ e, .coercionFailed e ∈
        (Constraints.check {} "day" [⟨.timeFormat .date, none⟩] (some (.text "7"))).events ∧
      e.reason.message ≠ "bad or unsupported format string") := by
  obtain ⟨_, haccepted, hrefused, hobtainable⟩ := layout_verdict_agrees_with_reading
  have husable : Layout.isUsable "%Q" = false ∧ Layout.isUsable "%H:%M" = true := by
    decide +kernel
  have hno : Constraint.timeFormat? "%Q" = .error (.invalidLayout "%Q") :=
    Constraint.timeFormat?_of_refused husable.1
  have hyes : Constraint.timeFormat? "%H:%M" = .ok ⟨.timeFormat (.custom "%H:%M"), none⟩ :=
    Constraint.timeFormat?_of_isUsable husable.2
  have hunread : (Value.text "7").toTimestamp (.custom "%H:%M") =
      .error ⟨"7", .custom "%H:%M", .tooShort⟩ := by
    decide +kernel
  have hreported : .coercionFailed ⟨"7", .date, .tooShort⟩ ∈
      (Constraints.check {} "day" [⟨.timeFormat .date, none⟩] (some (.text "7"))).events := by
    decide +kernel
  have hplain : Constraint.Obtainable ⟨.timeFormat .date, none⟩ := .plain nofun
  refine ⟨hno, (hrefused "%Q" _ hno).2 _ rfl, hyes, ⟨_, hunread, ?_⟩, ⟨_, hreported, ?_⟩⟩
  · exact (haccepted "%H:%M" _ hyes).2 _ _ hunread
  · exact hobtainable _ (List.forall_mem_singleton.mpr hplain) _ _ _ _ hreported

end Fieldwise
