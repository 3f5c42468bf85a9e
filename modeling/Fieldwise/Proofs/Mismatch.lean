import Fieldwise.Proofs.Evaluation
import Fieldwise.Proofs.Log

/-!
# Bounds on values that are no numbers

A numeric bound that is asked of a value without an integer form is a mismatch. Every
mismatch is a violation where mismatches are reported, and an event where they are skipped;
about everything else the two policies find the same, in the same order.
-/

namespace Fieldwise

/-! ### Mismatches -/

/-- A bound in the constraints of a field, and the value of the field that is no number. -/
structure Mismatch where
  field : String
  constraint : Constraint
  value : Value

namespace Mismatch

def violation (m : Mismatch) : Violation := Constraint.typeMismatch m.field

def event (m : Mismatch) : Event :=
  .boundSkipped m.field m.constraint.code m.value.typeName

end Mismatch

def Constraint.mismatch? (field : String) (v : Value) (c : Constraint) : Option Mismatch :=
  if c.rule.IsMismatch v then some ⟨field, c, v⟩ else none

/-- The mismatches of a field, in the order of its constraints. -/
def Constraints.mismatches (field : String) (constraints : Constraints) (v : Option Value) :
    List Mismatch :=
  match constraints.asked? v with
  | none => []
  | some v => constraints.filterMap (Constraint.mismatch? field v)

/-- The mismatches of a record, in the order of the schema. -/
def Schema.mismatches {ρ : Type} [Record ρ] (schema : Schema) (record : ρ) : List Mismatch :=
  schema.fields.entries.flatMap fun (name, constraints) =>
    constraints.mismatches name (Record.field? record name)

/-- The violation says that a field holds no number. -/
def Violation.isTypeMismatch (v : Violation) : Bool := v.code = "type_mismatch"

/-- The event says that a bound was left out. -/
def Event.isBoundSkipped (e : Event) : Bool := e.message = "numeric bound not applicable"

/-! ### Constraints -/

namespace Constraint

theorem code_ne_type_mismatch (c : Constraint) : c.code ≠ "type_mismatch" := by
  unfold Constraint.code
  cases c.rule with
  | timeFormat layout =>
    cases layout with
    | custom layout => simp [Rule.code]
    | _ => simp [Rule.code]
  | _ => simp [Rule.code]

theorem code_of_isMismatch (v : Value) (c : Constraint) (h : c.rule.IsMismatch v) :
    c.code = "min" ∨ c.code = "max" := by
  unfold Constraint.code
  cases hrule : c.rule with
  | min bound => exact Or.inl rfl
  | max bound => exact Or.inr rfl
  | _ =>
    rw [hrule] at h
    exact absurd h not_false

variable (field : String) (v : Value) (c : Constraint)

theorem due?_kept :
    (c.due? ⟨.report⟩ field v).filter (fun v => !v.isTypeMismatch) = c.due? ⟨.skip⟩ field v := by
  have hcode := code_ne_type_mismatch c
  unfold due?
  split
  · rfl
  · split
    · rfl
    · simp [Violation.isTypeMismatch, hcode]

theorem due?_removed :
    (c.due? ⟨.report⟩ field v).filter Violation.isTypeMismatch =
      (c.mismatch? field v).map Mismatch.violation := by
  have hcode := code_ne_type_mismatch c
  unfold due? mismatch?
  split
  · rfl
  · split
    · rfl
    · simp [Violation.isTypeMismatch, hcode]

theorem dueEvent?_skipped (options : Options) :
    (c.dueEvent? options field v).filter Event.isBoundSkipped =
      match options.mismatch with
      | .skip => (c.mismatch? field v).map Mismatch.event
      | .report => none := by
  unfold dueEvent? mismatch?
  by_cases hm : c.rule.IsMismatch v
  · simp only [hm, ↓reduceIte]
    cases options.mismatch with
    | skip => rfl
    | report => rfl
  · simp only [hm, ↓reduceIte]
    -- A text that cannot be read is reported, but with other words.
    have hread : ((c.rule.unreadable? v).map Event.coercionFailed).filter Event.isBoundSkipped =
        none := by
      cases c.rule.unreadable? v with
      | none => rfl
      | some e => rfl
    rw [hread]
    cases options.mismatch with
    | skip => rfl
    | report => rfl

end Constraint

/-! ### Fields -/

namespace Constraints

variable (field : String) (constraints : Constraints) (v : Option Value)

theorem isTypeMismatch_of_mem_dueMissing (violation : Violation)
    (h : violation ∈ dueMissing field constraints) : violation.isTypeMismatch = false := by
  unfold dueMissing at h
  split at h
  · cases h
  · rw [List.mem_singleton.mp h]
    rfl

theorem due_kept :
    (constraints.due ⟨.report⟩ field v).filter (fun v => !v.isTypeMismatch) =
      constraints.due ⟨.skip⟩ field v := by
  rw [due_eq_asked, due_eq_asked]
  cases constraints.asked? v with
  | none =>
    apply List.filter_eq_self.mpr
    intro violation hmem
    rw [isTypeMismatch_of_mem_dueMissing field constraints violation hmem]
    rfl
  | some v => simp only [List.filter_filterMap, Constraint.due?_kept]

theorem due_removed :
    (constraints.due ⟨.report⟩ field v).filter Violation.isTypeMismatch =
      (constraints.mismatches field v).map Mismatch.violation := by
  rw [due_eq_asked, mismatches]
  cases constraints.asked? v with
  | none =>
    apply List.filter_eq_nil_iff.mpr
    intro violation hmem
    rw [isTypeMismatch_of_mem_dueMissing field constraints violation hmem]
    exact Bool.false_ne_true
  | some v => simp only [List.filter_filterMap, Constraint.due?_removed, List.map_filterMap]

theorem dueEvents_skipped (options : Options) :
    (constraints.dueEvents options field v).filter Event.isBoundSkipped =
      match options.mismatch with
      | .skip => (constraints.mismatches field v).map Mismatch.event
      | .report => [] := by
  unfold dueEvents mismatches
  cases constraints.asked? v with
  | none =>
    have hmissing : (if constraints.isRequired then [Event.requiredMissing field] else []).filter
        Event.isBoundSkipped = [] := by
      cases constraints.isRequired with
      | true => rfl
      | false => rfl
    simp only [hmissing]
    cases options.mismatch with
    | skip => rfl
    | report => rfl
  | some v =>
    have hevaluating : (Event.evaluating field constraints.length).isBoundSkipped = false := rfl
    simp only [List.filter_cons, hevaluating, Bool.false_eq_true, ↓reduceIte,
      List.filter_filterMap, Constraint.dueEvent?_skipped]
    cases options.mismatch with
    | skip => exact List.map_filterMap.symm
    | report => exact List.filterMap_none _

theorem of_mem_mismatches (m : Mismatch) (h : m ∈ constraints.mismatches field v) :
    m.field = field ∧ v = some m.value ∧ m.constraint ∈ constraints ∧
      m.constraint.rule.IsMismatch m.value := by
  unfold mismatches at h
  cases hasked : constraints.asked? v with
  | none =>
    rw [hasked] at h
    exact absurd h List.not_mem_nil
  | some w =>
    rw [hasked] at h
    obtain ⟨c, hc, hm⟩ := List.mem_filterMap.mp h
    unfold Constraint.mismatch? at hm
    split at hm
    · rename_i hmismatch
      have hv : v = some w := by
        unfold asked? at hasked
        split at hasked
        · cases hasked
        · exact (Option.filter_eq_some_iff.mp hasked).1
      cases hm
      exact ⟨rfl, hv, hc, hmismatch⟩
    · cases hm

end Constraints

/-! ### Records -/

namespace Schema

variable {ρ : Type} [Record ρ] (schema : Schema) (record : ρ)

theorem due_kept :
    (schema.due ⟨.report⟩ record).filter (fun v => !v.isTypeMismatch) =
      schema.due ⟨.skip⟩ record := by
  simp only [due, List.filter_flatMap, Constraints.due_kept]

theorem due_removed :
    (schema.due ⟨.report⟩ record).filter Violation.isTypeMismatch =
      (schema.mismatches record).map Mismatch.violation := by
  simp only [due, mismatches, List.filter_flatMap, Constraints.due_removed, List.map_flatMap]

theorem events_validateWith_skipped (options : Options) :
    (schema.validateWith options record).events.filter Event.isBoundSkipped =
      match options.mismatch with
      | .skip => (schema.mismatches record).map Mismatch.event
      | .report => [] := by
  have hlast (n : Nat) : (Event.checkedRecord schema.size n).isBoundSkipped = false := rfl
  rw [validateWith, Logged.events_bind, Logged.events_pure, List.append_nil,
    Session.events_check, List.filter_append, List.filter_cons, hlast]
  simp only [Bool.false_eq_true, ↓reduceIte, List.filter_nil, List.append_nil, dueEvents,
    List.filter_flatMap, Constraints.dueEvents_skipped]
  cases options.mismatch with
  | skip => simp only [mismatches, List.map_flatMap]
  | report => simp

theorem of_mem_mismatches (m : Mismatch) (h : m ∈ schema.mismatches record) :
    (m.constraint.code = "min" ∨ m.constraint.code = "max") ∧
    (∃ constraints, schema.get? m.field = some constraints ∧ m.constraint ∈ constraints) ∧
    Record.field? record m.field = some m.value ∧
    (m.constraint.check ⟨.report⟩ m.field m.value).value =
      [⟨m.field, "Must be a number", "type_mismatch"⟩] := by
  obtain ⟨⟨name, constraints⟩, hentry, hm⟩ := List.mem_flatMap.mp h
  obtain ⟨hfield, hvalue, hconstraint, hmismatch⟩ :=
    Constraints.of_mem_mismatches name constraints _ m hm
  subst hfield
  refine ⟨Constraint.code_of_isMismatch m.value m.constraint hmismatch, ?_, hvalue, ?_⟩
  · exact ⟨constraints, Entries.get?_of_mem schema.fields.distinct hentry, hconstraint⟩
  · rw [Constraint.value_check, Constraint.due?]
    simp only [hmismatch, ↓reduceIte, Option.toList_some]

/-- Skipping mismatches finds what reporting them finds, in the same order, without the
violations that tell of a mismatch. These come one for each mismatch of the record, and so do
the events of skipping: each names the field, the code of the bound, `min` or `max`, and the
kind of the value. Reporting has no such event. -/
theorem policies_differ_in_mismatches :
    (schema.validateWith ⟨.skip⟩ record).value.toList =
      ((schema.validateWith ⟨.report⟩ record).value.toList.filter fun v =>
        v.code ≠ "type_mismatch") ∧
    ((schema.validateWith ⟨.report⟩ record).value.toList.filter fun v =>
        v.code = "type_mismatch") =
      ((schema.mismatches record).map fun m => ⟨m.field, "Must be a number", "type_mismatch"⟩) ∧
    (((schema.validateWith ⟨.skip⟩ record).events.filter fun e =>
        e.message = "numeric bound not applicable").map fun e => (e.level, e.fields)) =
      ((schema.mismatches record).map fun m => (Level.trace,
        [("field", m.field), ("rule", m.constraint.code), ("got", m.value.typeName)])) ∧
    (((schema.validateWith ⟨.report⟩ record).value.toList.filter fun v =>
        v.code = "type_mismatch").map Violation.field) =
      (((schema.validateWith ⟨.skip⟩ record).events.filter fun e =>
        e.message = "numeric bound not applicable").filterMap fun e =>
          Entries.get? "field" e.fields) ∧
    ((schema.validateWith ⟨.report⟩ record).events.filter fun e =>
      e.message = "numeric bound not applicable") = [] ∧
    ∀ m ∈ schema.mismatches record,
      (m.constraint.code = "min" ∨ m.constraint.code = "max") ∧
      (∃ constraints, schema.get? m.field = some constraints ∧ m.constraint ∈ constraints) ∧
      Record.field? record m.field = some m.value ∧
      (m.constraint.check ⟨.report⟩ m.field m.value).value =
        [⟨m.field, "Must be a number", "type_mismatch"⟩] := by
  have hkept : (schema.due ⟨.report⟩ record).filter (fun v => v.code ≠ "type_mismatch") =
      schema.due ⟨.skip⟩ record := by
    rw [← due_kept]
    apply List.filter_congr
    intro v _
    simp [Violation.isTypeMismatch]
  have hremoved : ((schema.validateWith ⟨.report⟩ record).value.toList.filter fun v =>
      v.code = "type_mismatch") = (schema.mismatches record).map Mismatch.violation := by
    rw [value_validateWith, ValidationResult.toList_ofList]
    exact schema.due_removed record
  have hskipped : ((schema.validateWith ⟨.skip⟩ record).events.filter fun e =>
      e.message = "numeric bound not applicable") =
        (schema.mismatches record).map Mismatch.event :=
    schema.events_validateWith_skipped record ⟨.skip⟩
  refine ⟨?_, hremoved, ?_, ?_, ?_, schema.of_mem_mismatches record⟩
  · rw [value_validateWith, value_validateWith, ValidationResult.toList_ofList,
      ValidationResult.toList_ofList, hkept]
  · rw [hskipped, List.map_map]
    rfl
  · rw [hremoved, hskipped, List.map_map, List.filterMap_map]
    exact (congrFun List.filterMap_eq_map _).symm
  · exact schema.events_validateWith_skipped record ⟨.report⟩

end Schema

end Fieldwise
