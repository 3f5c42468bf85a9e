import Fieldwise.Proofs.SessionRun
import Mathlib.Data.List.TFAE

/-!
# The readings of a session

A session is read in many ways: whether it is valid, how many violations it holds, which
they are, by field, as text and as a result. The result keeps the violations in one list and
groups them anew by the field that each names, so the readings agree because the violations
of a session stand under their own fields.
-/

namespace Fieldwise

/-! ### Collections of violations -/

namespace Violations

variable (vs : Violations)

theorem entries_byField :
    vs.byField.entries =
      (Grouping.groups Violation.field vs.toList).map fun g => (g.1, g.2.map Violation.message) :=
  Grouping.collect_entries Violation.field Violation.message vs.toList

theorem forField_eq_under (field : String) :
    vs.forField field = Grouping.under Violation.field field vs.toList := by
  apply List.filter_congr
  intro v _
  exact beq_eq_decide v.field field

end Violations

namespace Session

/-! ### Agreement -/

/-- A collection of violations says what the session says. -/
structure ShownBy (s : Session) (vs : Violations) : Prop where
  inOrder : vs.toList = s.violations
  counted : vs.size = s.size
  first : s.violations.head? = some vs.first
  grouped : vs.byField = s.fieldErrors
  rendered : vs.toText = s.render ∧ toString vs = s.render
  byName : ∀ field, (vs.forField field).map Violation.message = s.errorsFor field

/-- All readings of a session agree. -/
structure Coherent (s : Session) : Prop where
  valid : [s.isValid = true, s.isEmpty = true, s.hasErrors = false, s.size = 0,
    s.fieldErrors.isEmpty = true, s.violations = [], s.result = .valid].TFAE
  invalid : s.violations ≠ [] → ∃ vs, s.result = .invalid vs ∧ s.ShownBy vs
  counted : s.size = s.fieldErrors.values.flatten.length
  rendered : s.render = String.intercalate "; " s.flatList ∧ toString s = s.render
  byName : ∀ field, s.errorsFor field = (s.fieldErrors.get? field).getD []

/-! ### Sessions that hold a list of violations -/

variable (o : Options) (vs : List Violation)

theorem violations_addAll_fresh_eq_nil_iff : ((fresh o).addAll vs).violations = [] ↔ vs = [] := by
  rw [← List.length_eq_zero_iff, ← List.length_eq_zero_iff, violations_addAll_fresh,
    Grouping.regrouped_length]

theorem errorsFor_addAll_fresh (field : String) :
    ((fresh o).addAll vs).errorsFor field =
      (Grouping.under Violation.field field vs).map Violation.message := by
  have hbucket : (((fresh o).addAll vs).buckets.get? field).getD [] =
      Grouping.under Violation.field field vs := by
    rw [addAll_fresh, Grouping.collect_get?, List.map_id]
  rw [errorsFor, hbucket]

theorem errorsFor_eq_fieldErrors (s : Session) (field : String) :
    s.errorsFor field = (s.fieldErrors.get? field).getD [] := by
  rw [errorsFor, fieldErrors, FieldMap.get?_mapValues]
  cases s.buckets.get? field with
  | none => rfl
  | some vs => rfl

theorem size_eq_length_fieldErrors (s : Session) :
    s.size = s.fieldErrors.values.flatten.length := by
  have hmessages : s.fieldErrors.values.flatten = s.violations.map Violation.message := by
    simp only [fieldErrors, FieldMap.mapValues, FieldMap.values, violations, List.map_map,
      List.map_flatten]
    rfl
  rw [hmessages, List.length_map, size_eq_length_violations]

theorem shownBy_addAll_fresh (ws : Violations)
    (h : ((fresh o).addAll vs).violations = ws.toList) : ((fresh o).addAll vs).ShownBy ws where
  inOrder := h.symm
  counted := by
    rw [Violations.size, ← h, size_eq_length_violations]
  first := by
    rw [h]
    rfl
  grouped := by
    -- The result groups what was read group by group.
    have hgroups : Grouping.groups Violation.field ws.toList =
        Grouping.groups Violation.field vs := by
      rw [← h, violations_addAll_fresh, Grouping.groups_regrouped]
    apply FieldMap.eq_of_entries
    rw [Violations.entries_byField, fieldErrors_addAll_fresh, hgroups]
  rendered := by
    have htext : ws.toText = ((fresh o).addAll vs).render := by
      rw [Violations.toText, ← h]
      rfl
    exact ⟨htext, htext⟩
  byName := by
    intro field
    have hunder : Grouping.under Violation.field field ws.toList =
        Grouping.under Violation.field field vs := by
      rw [← h, violations_addAll_fresh, Grouping.under_regrouped]
    rw [Violations.forField_eq_under, errorsFor_addAll_fresh, hunder]

theorem coherent_addAll_fresh : ((fresh o).addAll vs).Coherent where
  valid := by
    have hvalid : ((fresh o).addAll vs).isValid = true ↔ vs = [] := by
      rw [isValid_addAll_fresh, List.isEmpty_iff]
    have herrors : ((fresh o).addAll vs).hasErrors = false ↔ vs = [] := by
      rw [← hvalid, hasErrors, Bool.not_eq_false']
      rfl
    have hsize : ((fresh o).addAll vs).size = 0 ↔ vs = [] := by
      rw [size_addAll_fresh, List.length_eq_zero_iff]
    have hfields : ((fresh o).addAll vs).fieldErrors.isEmpty = true ↔ vs = [] := by
      rw [FieldMap.isEmpty, List.isEmpty_iff, fieldErrors_addAll_fresh, List.map_eq_nil_iff,
        Grouping.groups_eq_nil_iff]
    have hviolations := violations_addAll_fresh_eq_nil_iff o vs
    have hresult : ((fresh o).addAll vs).result = .valid ↔ vs = [] := by
      rw [result, ValidationResult.ofList_eq_valid_iff, hviolations]
    apply List.tfae_of_forall (vs = [])
    simp only [List.forall_mem_cons]
    exact ⟨hvalid, hvalid, herrors, hsize, hfields, hviolations, hresult,
      fun p hp => absurd hp List.not_mem_nil⟩
  invalid := by
    intro hne
    obtain ⟨v, rest, hcons⟩ := List.exists_cons_of_ne_nil hne
    refine ⟨⟨v, rest⟩, ?_, shownBy_addAll_fresh o vs ⟨v, rest⟩ hcons⟩
    rw [result, hcons]
    rfl
  counted := size_eq_length_fieldErrors _
  rendered := ⟨rfl, rfl⟩
  byName := errorsFor_eq_fieldErrors _

/-- After every run the readings of the session agree: those that say whether it is valid
say the same, and otherwise its result is a collection of violations in which every reading
finds what it finds in the session, for every field, recorded or not. -/
theorem readers_agree (o : Options) (ops : List Operation) :
    ((fresh o).run ops).value.1.Coherent := by
  rw [run_session]
  exact coherent_addAll_fresh o _

end Session

end Fieldwise
