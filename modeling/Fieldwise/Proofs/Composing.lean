import Fieldwise.Proofs.Declaring
import Fieldwise.Proofs.Evaluation
import Fieldwise.Proofs.Readers
import Mathlib.Data.List.Nodup

/-!
# Several schemas for one record

A record can be validated by each of several schemas and the results joined, checked by all
of them in one session, or validated by one schema that declares the fields of all. The
joined result lists the violations schema by schema, and the session groups this list by
field. Where no two schemas share a field, the list is that of the one schema.
-/

namespace Fieldwise

theorem Logged.value_mapM {α β : Type} (f : α → Logged β) (l : List α) :
    (l.mapM f).value = l.map fun a => (f a).value := by
  induction l with
  | nil => rfl
  | cons a rest ih =>
    rw [List.mapM_cons, value_bind, value_bind, ih]
    rfl

/-! ### Joining results -/

namespace ValidationResult

theorem toList_foldl (results : List ValidationResult) (start : ValidationResult) :
    (results.foldl (· ++ ·) start).toList = start.toList ++ results.flatMap toList := by
  induction results generalizing start with
  | nil => exact (List.append_nil _).symm
  | cons result rest ih =>
    rw [List.foldl_cons, ih, toList_append, List.flatMap_cons, List.append_assoc]

/-- Joining results is listing the violations of all of them. -/
theorem combineAll_eq_ofList (results : List ValidationResult) :
    combineAll results = ofList (results.flatMap toList) := by
  have hlist : (combineAll results).toList = results.flatMap toList := toList_foldl results valid
  rw [← hlist, ofList_toList]

end ValidationResult

/-! ### One schema after the other -/

/-- The session that has checked a record by one schema after the other. -/
def Session.afterChecks {ρ : Type} [Record ρ] (options : Options) (schemas : List Schema)
    (record : ρ) : Session :=
  ((fresh options).run (schemas.map fun schema => .check schema record)).value.1

namespace Schema

/-- The schema that declares the fields of all schemas in order. -/
def joined (schemas : List Schema) : Schema :=
  ofFields (schemas.flatMap fun schema => schema.fields.entries)

variable {ρ : Type} [Record ρ] (options : Options) (schemas : List Schema) (record : ρ)

/-- The violations due on a record by all schemas, schema by schema. -/
def dueEach : List Violation := schemas.flatMap fun schema => schema.due options record

theorem value_validateEach :
    (validateEach options schemas record).value = .ofList (dueEach options schemas record) := by
  have hlists : ∀ schema : Schema, (schema.validateWith options record).value.toList =
      schema.due options record := by
    intro schema
    rw [value_validateWith, ValidationResult.toList_ofList]
  rw [validateEach, Logged.value_bind, Logged.value_pure, Logged.value_mapM,
    ValidationResult.combineAll_eq_ofList, List.flatMap_map, dueEach]
  simp only [hlists]

theorem afterChecks_eq_addAll :
    Session.afterChecks options schemas record =
      (Session.fresh options).addAll (dueEach options schemas record) := by
  have hkept : (schemas.map fun schema => Operation.check schema record).rtakeWhile
      (fun op => !op.isClear) = schemas.map fun schema => Operation.check schema record := by
    apply List.rtakeWhile_eq_self_iff.mpr
    intro op hop
    obtain ⟨schema, _, rfl⟩ := List.mem_map.mp hop
    rfl
  -- No check clears the session, so all that was recorded is still there.
  rw [Session.afterChecks, Session.run_session, Operation.sinceClear, hkept, List.flatMap_map]
  rfl

theorem nodup_joined (h : schemas.Pairwise fun a b => a.names.Disjoint b.names) :
    (Entries.keys (schemas.flatMap fun schema => schema.fields.entries)).Nodup := by
  have hkeys : Entries.keys (schemas.flatMap fun schema => schema.fields.entries) =
      schemas.flatMap names := by
    rw [Entries.keys, List.map_flatMap]
    rfl
  rw [hkeys, List.nodup_flatMap]
  exact ⟨fun schema _ => schema.nodup_names, h⟩

theorem due_joined (h : schemas.Pairwise fun a b => a.names.Disjoint b.names) :
    (joined schemas).due options record = dueEach options schemas record := by
  rw [joined, due_ofFields _ (nodup_joined schemas h), List.flatMap_assoc]
  rfl

/-- Checking a record by several schemas in one session gives a valid session exactly if the
joined results of the schemas are valid, and otherwise the session has the messages of the
joined violations by field, also where schemas share fields. Where they share none, the
joined result is that of the schema that declares the fields of all of them. -/
theorem schemas_compose :
    ((Session.afterChecks options schemas record).isValid = true ↔
      (validateEach options schemas record).value = .valid) ∧
    (match (validateEach options schemas record).value with
      | .valid => (Session.afterChecks options schemas record).fieldErrors = .empty
      | .invalid vs => (Session.afterChecks options schemas record).fieldErrors = vs.byField) ∧
    ((schemas.Pairwise fun a b => a.names.Disjoint b.names) →
      (joined schemas).names = schemas.flatMap names ∧
      (validateEach options schemas record).value =
        ((joined schemas).validateWith options record).value) := by
  refine ⟨?_, ?_, ?_⟩
  · rw [afterChecks_eq_addAll, value_validateEach, Session.isValid_addAll_fresh,
      List.isEmpty_iff, ValidationResult.ofList_eq_valid_iff]
  · rw [afterChecks_eq_addAll, value_validateEach]
    cases hdue : dueEach options schemas record with
    | nil => rfl
    | cons v rest =>
      apply FieldMap.eq_of_entries
      rw [Session.fieldErrors_addAll_fresh]
      exact (Violations.entries_byField ⟨v, rest⟩).symm
  · intro hdisjoint
    refine ⟨?_, ?_⟩
    · have hentries := FieldMap.entries_ofList _ (nodup_joined schemas hdisjoint)
      rw [names, FieldMap.keys, joined, fields_ofFields, hentries, Entries.keys,
        List.map_flatMap]
      rfl
    · rw [value_validateEach, value_validateWith, due_joined options schemas record hdisjoint]

/-- Two schemas without a common field, on a record that fails in both. -/
theorem disjoint_schemas_join :
    ∃ (person contact : Schema) (record : FieldMap Value),
      person = ofFields [("name", [⟨.required, none⟩]), ("age", [⟨.min 18, none⟩])] ∧
      contact = ofFields [("mail", [⟨.required, none⟩, ⟨.maxLength 3, none⟩])] ∧
      record = .ofList [("mail", .text "none"), ("age", .text "old")] ∧
      ([person, contact].Pairwise fun a b => a.names.Disjoint b.names) ∧
      (validateEach ⟨.report⟩ [person, contact] record).value =
        ((joined [person, contact]).validateWith ⟨.report⟩ record).value ∧
      (validateEach ⟨.report⟩ [person, contact] record).value.toList =
        [⟨"name", "This field is required", "required"⟩,
          ⟨"age", "Must be a number", "type_mismatch"⟩,
          ⟨"mail", "Must be at most 3 characters", "max_len"⟩] := by
  have hnames : ∀ name ∈ ["name", "age"], name ∉ ["mail"] := by decide
  have hdisjoint : [ofFields [("name", [⟨.required, none⟩]), ("age", [⟨.min 18, none⟩])],
      ofFields [("mail", [⟨.required, none⟩, ⟨.maxLength 3, none⟩])]].Pairwise
        fun a b => a.names.Disjoint b.names :=
    List.pairwise_pair.mpr fun name hperson hcontact => hnames name hperson hcontact
  exact ⟨_, _, _, rfl, rfl, rfl, hdisjoint, ((schemas_compose _ _ _).2.2 hdisjoint).2, by decide⟩

end Schema

end Fieldwise
