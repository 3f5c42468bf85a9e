import Fieldwise.Proofs.Collecting
import Fieldwise.Proofs.Due

/-!
# Evaluating whole records

Validating a record gives the violations that are due on it, in the order of the schema and
with nothing else. What is due comes field by field, and the fields of a schema are
distinct, so collecting the violations by field keeps their order.
-/

namespace Fieldwise.Schema

variable {ρ : Type} [Record ρ] (schema : Schema) (options : Options) (record : ρ)

/-- The violations due on one field of the schema. -/
def dueOn (name : String) : List Violation :=
  Constraints.due options name ((schema.get? name).getD []) (Record.field? record name)

theorem due_eq_flatMap :
    schema.due options record = schema.names.flatMap (schema.dueOn options record) := by
  have hentries := Entries.eq_map_get? [] schema.fields.entries schema.fields.distinct
  rw [due, hentries, List.flatMap_map]
  rfl

theorem field_of_mem_dueOn (name : String) (v : Violation)
    (h : v ∈ schema.dueOn options record name) : v.field = name :=
  Constraints.field_of_mem_due options name _ _ v h

theorem regrouped_due :
    Grouping.regrouped Violation.field (schema.due options record) =
      schema.due options record := by
  rw [due_eq_flatMap]
  exact Grouping.regrouped_flatMap Violation.field schema.names _ schema.nodup_names
    fun name _ => schema.field_of_mem_dueOn options record name

theorem names_due :
    Grouping.names Violation.field (schema.due options record) =
      schema.names.filter fun name => (schema.due options record).any fun v => v.field == name := by
  have hfields : ∀ name ∈ schema.names, ∀ v ∈ schema.dueOn options record name, v.field = name :=
    fun name _ => schema.field_of_mem_dueOn options record name
  rw [due_eq_flatMap, Grouping.names_flatMap _ _ _ schema.nodup_names hfields]
  apply List.filter_congr
  intro name hname
  have hunder := Grouping.under_flatMap Violation.field schema.names
    (schema.dueOn options record) schema.nodup_names hfields name hname
  rw [← hunder, Bool.eq_iff_iff]
  simp only [Grouping.under, Bool.not_eq_true', List.isEmpty_eq_false_iff, ne_eq,
    List.filter_eq_nil_iff, decide_eq_true_eq, not_forall, not_not, List.any_eq_true,
    beq_iff_eq, exists_prop]

theorem value_validateWith :
    (schema.validateWith options record).value = .ofList (schema.due options record) := by
  have hcheck : (Session.check ⟨options, .empty⟩ schema record).value =
      (Session.fresh options).addAll (schema.due options record) :=
    Session.value_check ⟨options, .empty⟩ schema record
  rw [validateWith, Logged.value_bind, Logged.value_pure, hcheck, Session.result,
    Session.violations_addAll_fresh, regrouped_due]

theorem value_evaluate :
    (schema.evaluate record).value = ((schema.due {} record).isEmpty,
      Grouping.collect Violation.field Violation.message (schema.due {} record)) := by
  have hcheck : (Session.check {} schema record).value =
      (Session.fresh {}).addAll (schema.due {} record) :=
    Session.value_check {} schema record
  rw [evaluate, Logged.value_bind, Logged.value_pure, hcheck, Session.isValid_addAll_fresh,
    Session.fieldErrors_eq_collect]

/-- Validating a record gives the violations that are due on it, field by field in the
order of the schema, and succeeds exactly if there is none; evaluating it gives the same
answer, with the messages of these violations grouped by field, so its names are the failing
fields in the order of the schema. -/
theorem evaluation_gives_due :
    (schema.validateWith options record).value.toList = schema.due options record ∧
    ((schema.validateWith options record).value = .valid ↔ schema.due options record = []) ∧
    ((schema.evaluate record).value.1 = true ↔ schema.due ⟨.skip⟩ record = []) ∧
    (schema.evaluate record).value.2.entries =
      (Grouping.groups Violation.field (schema.due ⟨.skip⟩ record)).map
        (fun g => (g.1, g.2.map Violation.message)) ∧
    (schema.evaluate record).value.2.keys =
      schema.names.filter fun name => (schema.due ⟨.skip⟩ record).any fun v => v.field == name := by
  have hcheck : (Session.check {} schema record).value =
      (Session.fresh ⟨.skip⟩).addAll (schema.due ⟨.skip⟩ record) :=
    Session.value_check {} schema record
  have hevaluate : (schema.evaluate record).value =
      (((Session.fresh ⟨.skip⟩).addAll (schema.due ⟨.skip⟩ record)).isValid,
        ((Session.fresh ⟨.skip⟩).addAll (schema.due ⟨.skip⟩ record)).fieldErrors) := by
    rw [evaluate, Logged.value_bind, Logged.value_pure, hcheck]
  refine ⟨?_, ?_, ?_, ?_, ?_⟩
  · rw [value_validateWith, ValidationResult.toList_ofList]
  · rw [value_validateWith]
    cases schema.due options record with
    | nil => simp [ValidationResult.ofList, Violations.ofList?]
    | cons v rest => simp [ValidationResult.ofList, Violations.ofList?]
  · rw [hevaluate, Session.isValid_addAll_fresh, List.isEmpty_iff]
  · rw [hevaluate, Session.fieldErrors_addAll_fresh]
  · rw [hevaluate, Session.keys_fieldErrors_addAll_fresh, names_due]

end Fieldwise.Schema
