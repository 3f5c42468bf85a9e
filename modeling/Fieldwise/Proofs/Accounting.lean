import Fieldwise.Proofs.Declaring
import Fieldwise.Proofs.Mismatch
import Fieldwise.Proofs.Overrides

/-!
# What the log of a check accounts for

The lines that a check leaves in the log come field by field and tell of each field whether it
was left alone, missed or evaluated. The lines of a field that was evaluated go with its
constraints: one for every time format that the value does not show, each of which is a new
violation too, and one for every bound that was left out because the value is no number.
-/

namespace Fieldwise

/-! ### Lines -/

/-- An event as it is written to the log. -/
structure LogLine where
  level : Level
  message : String
  fields : List (String × String)
deriving DecidableEq

def Event.line (e : Event) : LogLine := ⟨e.level, e.message, e.fields⟩

def Logged.log {α : Type} (x : Logged α) : List LogLine := x.events.map Event.line

namespace LogLine

def requiredMissing (field : String) : LogLine :=
  ⟨.trace, "required value missing", [("field", field)]⟩

def evaluating (field : String) (constraints : Nat) : LogLine :=
  ⟨.trace, "evaluating field",
    [("field", field), ("constraints", Event.countText constraints)]⟩

def coercionFailed (error : String) : LogLine :=
  ⟨.trace, "timestamp coercion failed", [("error", error)]⟩

def boundSkipped (field rule got : String) : LogLine :=
  ⟨.trace, "numeric bound not applicable", [("field", field), ("rule", rule), ("got", got)]⟩

def checkedRecord (fields violations : Nat) : LogLine :=
  ⟨.debug, "checked record",
    [("fields", Event.countText fields), ("violations", Event.countText violations)]⟩

end LogLine

/-! ### Values that show no point in time -/

/-- A constraint whose layout the value does not show, and why. -/
structure Unread where
  constraint : Constraint
  error : CoercionError

namespace Unread

def violation (field : String) (u : Unread) : Violation :=
  ⟨field, u.constraint.message, u.constraint.code⟩

def event (u : Unread) : Event := .coercionFailed u.error

end Unread

def Constraint.unread? (w : Value) (c : Constraint) : Option Unread :=
  (c.rule.unreadable? w).map (Unread.mk c)

/-- The violation says that a value shows no point in time. -/
def Violation.isUnread (v : Violation) : Bool :=
  v.code ∈ ["date", "time", "datetime", "time_format"]

def Event.isCoercionFailed (e : Event) : Bool := e.message = "timestamp coercion failed"

/-! ### Constraints -/

namespace Constraint

variable (options : Options) (field : String) (w : Value) (c : Constraint)

theorem code_of_timeFormat (layout : Calendar.Layout) :
    (Rule.timeFormat layout).code ∈ ["date", "time", "datetime", "time_format"] := by
  cases layout with
  | _ => simp [Rule.code]

theorem timeFormat_or (rule : Rule) :
    (∃ layout, rule = .timeFormat layout) ∨
      (rule.code ∉ ["date", "time", "datetime", "time_format"] ∧ rule.unreadable? w = none) := by
  cases rule with
  | timeFormat layout => exact Or.inl ⟨layout, rfl⟩
  | _ => exact Or.inr ⟨by simp [Rule.code], rfl⟩

theorem due?_unread :
    (c.due? options field w).filter Violation.isUnread =
      (c.unread? w).map (Unread.violation field) := by
  rcases timeFormat_or w c.rule with ⟨layout, hrule⟩ | ⟨hcode, hread⟩
  · have hunread : (⟨field, c.message, c.code⟩ : Violation).isUnread = true := by
      rw [Violation.isUnread, code, hrule]
      exact decide_eq_true (code_of_timeFormat layout)
    have hmessage : c.override.getD (c.rule.words w) = c.message := by
      rw [message, hrule]
      rfl
    have hmismatch : ¬c.rule.IsMismatch w := by
      rw [hrule]
      exact not_false
    rw [due?, if_neg hmismatch, hmessage, unread?, hrule]
    cases hvalue : w.toTimestamp layout with
    | ok t => simp [Rule.Holds, Rule.unreadable?, hvalue, Except.isOk, Except.toBool]
    | error e =>
      simp [Rule.Holds, Rule.unreadable?, hvalue, Except.isOk, Except.toBool, hunread,
        Unread.violation]
  · have hother : ∀ message, (⟨field, message, c.code⟩ : Violation).isUnread = false :=
      fun message => decide_eq_false hcode
    have htype : (⟨field, "Must be a number", "type_mismatch"⟩ : Violation).isUnread = false := rfl
    rw [unread?, hread, due?]
    split
    · cases options.mismatch with
      | skip => rfl
      | report => simp [htype]
    · split
      · rfl
      · simp [hother]

theorem dueEvent?_unread :
    (c.dueEvent? options field w).filter Event.isCoercionFailed =
      (c.unread? w).map Unread.event := by
  rcases timeFormat_or w c.rule with ⟨layout, hrule⟩ | ⟨_, hread⟩
  · have hmismatch : ¬c.rule.IsMismatch w := by
      rw [hrule]
      exact not_false
    rw [dueEvent?, if_neg hmismatch, unread?]
    cases c.rule.unreadable? w with
    | none => rfl
    | some e => rfl
  · rw [dueEvent?, unread?, hread]
    split
    · cases options.mismatch with
      | skip => rfl
      | report => rfl
    · rfl

theorem kind_of_dueEvent? (e : Event) (h : c.dueEvent? options field w = some e) :
    e.isCoercionFailed = true ∨ e.isBoundSkipped = true := by
  unfold dueEvent? at h
  split at h
  · split at h
    · cases h
      exact Or.inr rfl
    · cases h
  · obtain ⟨error, _, rfl⟩ := Option.map_eq_some_iff.mp h
    exact Or.inl rfl

end Constraint

/-! ### Fields -/

namespace Constraints

/-- What the lines of an evaluated field say about its violations: they come constraint by
constraint, the failed readings are those of the violations of time formats, in their order, and
the bounds left out are those asked of a value that is no number. -/
structure LinesOf (options : Options) (field : String) (constraints : Constraints) (w : Value)
    (violations : List Violation) (lines : List LogLine) : Prop where
  inOrder : lines = constraints.flatMap fun c => (c.check options field w).log
  unread : (lines.filter fun l => l.message = "timestamp coercion failed") =
    (constraints.filterMap (Constraint.unread? w)).map fun u => .coercionFailed u.error.message
  violated : (violations.filter fun violation =>
      violation.code ∈ ["date", "time", "datetime", "time_format"]) =
    (constraints.filterMap (Constraint.unread? w)).map (Unread.violation field)
  skipped : (lines.filter fun l => l.message = "numeric bound not applicable") =
    match options.mismatch with
    | .skip => (constraints.filter fun c => c.rule.IsMismatch w).map fun c =>
        .boundSkipped field c.code w.typeName
    | .report => []
  nothingElse : ∀ l ∈ lines, l.message = "timestamp coercion failed" ∨
    l.message = "numeric bound not applicable"

/-- What the log of a field says about the violations found in it. A field without constraints, or
without a value and without need of one, is left alone; a value that is asked for and missing is one
violation and one line; and a value that is there and not empty is evaluated. -/
structure AccountedBy (options : Options) (field : String) (constraints : Constraints)
    (v : Option Value) (violations : List Violation) (log : List LogLine) : Prop where
  silent : constraints = [] ∨ (∀ w ∈ v, w.isEmpty = true) ∧ constraints.isRequired = false →
    violations = [] ∧ log = []
  missed : (∀ w ∈ v, w.isEmpty = true) → constraints.isRequired = true →
    (∃ c, constraints.required? = some c ∧ violations = [⟨field, c.message, "required"⟩]) ∧
      log = [.requiredMissing field]
  evaluated : ∀ w, v = some w → w.isEmpty = false → constraints ≠ [] →
    ∃ lines, log = .evaluating field constraints.length :: lines ∧
      LinesOf options field constraints w violations lines

variable (options : Options) (field : String) (constraints : Constraints)

theorem log_check (v : Option Value) :
    (check options field constraints v).log =
      (constraints.dueEvents options field v).map Event.line := by
  rw [Logged.log, events_check]

theorem asked?_of_missing (v : Option Value) (h : ∀ w ∈ v, w.isEmpty = true) :
    constraints.asked? v = none := by
  unfold asked?
  split
  · rfl
  · apply Option.filter_eq_none_iff.mpr
    intro w hw
    simp [h w hw]

theorem asked?_of_filled (w : Value) (hfilled : w.isEmpty = false) (hne : constraints ≠ []) :
    constraints.asked? (some w) = some w := by
  have hsome : constraints.isEmpty = false := List.isEmpty_eq_false_iff.mpr hne
  simp [asked?, hsome, hfilled]

theorem exists_dueMissing (h : constraints.isRequired = true) :
    ∃ c, constraints.required? = some c ∧
      dueMissing field constraints = [⟨field, c.message, "required"⟩] := by
  unfold dueMissing required?
  rw [← List.head?_filter]
  cases hfilter : constraints.filter Constraint.isRequired with
  | nil =>
    rw [(isRequired_eq_false_iff constraints).mpr hfilter] at h
    cases h
  | cons c rest => exact ⟨c, rfl, rfl⟩

theorem dueMissing_eq_nil (h : constraints.isRequired = false) :
    dueMissing field constraints = [] := by
  rw [dueMissing, (isRequired_eq_false_iff constraints).mp h]

theorem map_mismatch? (w : Value) :
    (constraints.filterMap fun c => (c.mismatch? field w).map Mismatch.event) =
      (constraints.filter fun c => c.rule.IsMismatch w).map fun c =>
        .boundSkipped field c.code w.typeName := by
  rw [← List.filterMap_eq_map, List.filterMap_filter]
  apply List.filterMap_congr
  intro c _
  by_cases hm : c.rule.IsMismatch w
  · simp [Constraint.mismatch?, hm, Mismatch.event]
  · simp [Constraint.mismatch?, hm]

theorem linesOf_dueEvents (w : Value) (violations : List Violation)
    (h : violations = constraints.filterMap (Constraint.due? options field w)) :
    LinesOf options field constraints w violations
      ((constraints.filterMap (Constraint.dueEvent? options field w)).map Event.line) where
  inOrder := by
    simp only [Logged.log, Constraint.events_check, List.filterMap_eq_flatMap_toList,
      List.map_flatMap]
  unread := by
    have hfilter : (constraints.filterMap (Constraint.dueEvent? options field w)).filter
        Event.isCoercionFailed =
          (constraints.filterMap (Constraint.unread? w)).map Unread.event := by
      rw [List.filter_filterMap, List.map_filterMap]
      simp only [Constraint.dueEvent?_unread]
    rw [List.filter_map]
    have hline := congrArg (List.map Event.line) hfilter
    rw [List.map_map] at hline
    exact hline
  violated := by
    have hfilter : violations.filter Violation.isUnread =
        (constraints.filterMap (Constraint.unread? w)).map (Unread.violation field) := by
      rw [h, List.filter_filterMap, List.map_filterMap]
      simp only [Constraint.due?_unread]
    exact hfilter
  skipped := by
    have hfilter : (constraints.filterMap (Constraint.dueEvent? options field w)).filter
        Event.isBoundSkipped =
          match options.mismatch with
          | .skip => constraints.filterMap fun c => (c.mismatch? field w).map Mismatch.event
          | .report => [] := by
      rw [List.filter_filterMap]
      simp only [Constraint.dueEvent?_skipped]
      cases options.mismatch with
      | skip => rfl
      | report => exact List.filterMap_none _
    rw [List.filter_map]
    have hline := congrArg (List.map Event.line) hfilter
    refine hline.trans ?_
    cases options.mismatch with
    | skip =>
      simp only [map_mismatch?, List.map_map]
      rfl
    | report => rfl
  nothingElse := by
    intro l hl
    obtain ⟨e, he, rfl⟩ := List.mem_map.mp hl
    obtain ⟨c, _, hc⟩ := List.mem_filterMap.mp he
    rcases c.kind_of_dueEvent? options field w e hc with hkind | hkind
    · exact Or.inl (of_decide_eq_true hkind)
    · exact Or.inr (of_decide_eq_true hkind)

theorem accountedBy_check (v : Option Value) :
    AccountedBy options field constraints v (check options field constraints v).value
      (check options field constraints v).log where
  silent := by
    intro h
    rw [value_check, log_check, due_eq_asked, dueEvents]
    rcases h with rfl | ⟨hmissing, hrequired⟩
    · exact ⟨rfl, rfl⟩
    · rw [asked?_of_missing constraints v hmissing]
      simp [dueMissing_eq_nil field constraints hrequired, hrequired]
  missed := by
    intro hmissing hrequired
    rw [value_check, log_check, due_eq_asked, dueEvents, asked?_of_missing constraints v hmissing]
    refine ⟨exists_dueMissing field constraints hrequired, ?_⟩
    simp only [hrequired, ↓reduceIte]
    rfl
  evaluated := by
    rintro w rfl hfilled hne
    rw [value_check, log_check, due_eq_asked, dueEvents,
      asked?_of_filled constraints w hfilled hne]
    exact ⟨_, rfl, linesOf_dueEvents options field constraints w _ rfl⟩

end Constraints

/-! ### Records -/

namespace Session

variable {ρ : Type} [Record ρ] (s : Session) (schema : Schema) (record : ρ)

/-- What the check of one field of a schema gives. -/
def found (field : String × Constraints) : Logged (List Violation) :=
  field.2.check s.options field.1 (Record.field? record field.1)

theorem value_check_eq_addAll_found :
    (s.check schema record).value =
      s.addAll (schema.fields.entries.flatMap fun field => (s.found record field).value) := by
  simp only [found, value_check, Constraints.value_check]
  rfl

/-- Checking a record writes the lines of its fields in the order of the schema, and after them one
line with the number of fields and the number of violations that the session holds now, which are
those it held and the new ones. The lines of every field account for the new violations found in it,
and nothing else is written. -/
theorem log_accounts_for_check :
    (s.check schema record).log =
      (schema.fields.entries.flatMap fun field => (s.found record field).log) ++
        [.checkedRecord schema.size (s.check schema record).value.size] ∧
    (s.check schema record).value =
      s.addAll (schema.fields.entries.flatMap fun field => (s.found record field).value) ∧
    (s.check schema record).value.size =
      s.size + (schema.fields.entries.flatMap fun field => (s.found record field).value).length ∧
    ∀ field ∈ schema.fields.entries,
      Constraints.AccountedBy s.options field.1 field.2 (Record.field? record field.1)
        (s.found record field).value (s.found record field).log := by
  have hafter := s.value_check_eq_addAll_found schema record
  refine ⟨?_, hafter, ?_, ?_⟩
  · rw [Logged.log, events_check, List.map_append, Schema.dueEvents, List.map_flatMap]
    simp only [found, Constraints.log_check]
    rfl
  · rw [hafter, size_addAll]
  · intro field _
    exact Constraints.accountedBy_check s.options field.1 field.2 _

-- A text that is neither a date nor a number: one line for each, and one violation.
example :
    let schema := Schema.ofFields [("at", [⟨.timeFormat .date, none⟩, ⟨.min 3, none⟩])]
    ((fresh {}).check schema (FieldMap.ofList [("at", Value.text "soon")])).log =
      [.evaluating "at" 2,
        .coercionFailed
          "'soon' does not match time layout 'YYYY-MM-DD': input contains invalid characters",
        .boundSkipped "at" "min" "text", .checkedRecord 1 1] := by
  decide

end Session

end Fieldwise
