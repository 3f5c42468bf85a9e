import Fieldwise.Proofs.Declaring
import Fieldwise.Proofs.SessionRun

/-!
# Records that bring their rules

Checking a record that brings its rules is checking its values by the schema that declares
its rules, as long as no two fields are reported under one name.
-/

namespace Fieldwise.RuledField

/-- The fields under the names that they are reported by, with the constraints of their
rules. -/
def declarations (fields : List RuledField) : List (String × Constraints) :=
  fields.map fun a => (a.externalName, (RuleText.parse a.rules).value)

/-- The values under the names that they are reported by. -/
def bindings (fields : List RuledField) : List (String × Value) :=
  fields.map fun a => (a.externalName, a.value)

/-- The schema that declares the rules of the fields one after the other. -/
def schema (fields : List RuledField) : Logged Schema :=
  fields.foldlM (fun schema a => schema.rules a.externalName a.rules) ∅

theorem keys_declarations (fields : List RuledField) :
    Entries.keys (declarations fields) = fields.map externalName := by
  rw [Entries.keys, declarations, List.map_map]
  rfl

theorem keys_bindings (fields : List RuledField) :
    Entries.keys (bindings fields) = fields.map externalName := by
  rw [Entries.keys, bindings, List.map_map]
  rfl

theorem value_schema (fields : List RuledField) :
    (schema fields).value = Schema.ofFields (declarations fields) := by
  -- The fold is over every schema to start from, as each field declares on top of the others.
  have hfold : ∀ start : Schema,
      (fields.foldlM (fun (schema : Schema) a => schema.rules a.externalName a.rules)
        start).value =
        (declarations fields).foldl (fun schema field => schema.declare field.1 field.2)
          start := by
    induction fields with
    | nil => exact fun start => rfl
    | cons a rest ih =>
      intro start
      rw [List.foldlM_cons, Logged.value_bind, ih]
      rfl
  exact hfold ∅

theorem due_schema {ρ : Type} [Record ρ] (fields : List RuledField)
    (h : (fields.map externalName).Nodup) (options : Options) (record : ρ)
    (hrecord : ∀ a ∈ fields, Record.field? record a.externalName = some a.value) :
    (schema fields).value.due options record = fields.flatMap (RuledField.due options) := by
  have hkeys : (Entries.keys (declarations fields)).Nodup := by
    rw [keys_declarations]
    exact h
  rw [value_schema, Schema.due_ofFields _ hkeys, declarations, List.flatMap_map]
  apply List.flatMap_congr
  intro a ha
  show Constraints.due options a.externalName _ (Record.field? record a.externalName) = _
  rw [hrecord a ha, RuledField.due]

/-! ### Maps of the values -/

theorem mem_bindings (fields : List RuledField) (a : RuledField) (ha : a ∈ fields) :
    (a.externalName, a.value) ∈ bindings fields :=
  List.mem_map_of_mem ha

theorem bindings_pairwise (fields : List RuledField) (h : (fields.map externalName).Nodup) :
    (bindings fields).Pairwise fun a b => a.1 ≠ b.1 := by
  rw [← keys_bindings] at h
  exact List.pairwise_map.mp h

theorem field?_fieldMap (fields : List RuledField) (h : (fields.map externalName).Nodup)
    (a : RuledField) (ha : a ∈ fields) :
    Record.field? (FieldMap.ofList (bindings fields)) a.externalName = some a.value := by
  rw [← keys_bindings] at h
  exact FieldMap.get?_ofList _ h _ _ (mem_bindings fields a ha)

theorem field?_hashMap (fields : List RuledField) (h : (fields.map externalName).Nodup)
    (a : RuledField) (ha : a ∈ fields) :
    Record.field? (Std.HashMap.ofList (bindings fields)) a.externalName = some a.value := by
  have hdistinct : (bindings fields).Pairwise fun a b => (a.1 == b.1) = false :=
    (bindings_pairwise fields h).imp fun hne => beq_false_of_ne hne
  exact Std.HashMap.getElem?_ofList_of_mem (beq_self_eq_true _) hdistinct
    (mem_bindings fields a ha)

theorem field?_treeMap (fields : List RuledField) (h : (fields.map externalName).Nodup)
    (a : RuledField) (ha : a ∈ fields) :
    Record.field? (Std.TreeMap.ofList (bindings fields)) a.externalName = some a.value := by
  have hdistinct : (bindings fields).Pairwise fun a b => ¬compare a.1 b.1 = .eq :=
    (bindings_pairwise fields h).imp fun hne heq => hne (Std.LawfulEqCmp.eq_of_compare heq)
  exact Std.TreeMap.getElem?_ofList_of_mem Std.ReflCmp.compare_self hdistinct
    (mem_bindings fields a ha)

/-! ### Agreement -/

/-- Whatever a session holds, checking the fields by their own rules leaves it as checking
their values by the schema of these rules does, with the same answer. The values may stand
in any record that has them under the names that are reported, such as the maps of them. -/
theorem annotated_check_agrees (fields : List RuledField)
    (hnames : (fields.map externalName).Nodup) :
    (∀ {ρ : Type} [Record ρ] (record : ρ) (s : Session),
      (∀ a ∈ fields, Record.field? record a.externalName = some a.value) →
      (s.step (.checkAnnotated fields)).value =
        (s.step (.check (schema fields).value record)).value) ∧
    ∀ a ∈ fields,
      Record.field? (FieldMap.ofList (bindings fields)) a.externalName = some a.value ∧
      Record.field? (Std.HashMap.ofList (bindings fields)) a.externalName = some a.value ∧
      Record.field? (Std.TreeMap.ofList (bindings fields)) a.externalName = some a.value := by
  refine ⟨?_, ?_⟩
  · intro ρ _ record s hrecord
    have hsession : (s.step (.checkAnnotated fields)).value.1 =
        (s.step (.check (schema fields).value record)).value.1 := by
      rw [Session.step_session, Session.step_session]
      simp only [Operation.isClear, Bool.false_eq_true, ↓reduceIte, Operation.recorded]
      rw [due_schema fields hnames s.options record hrecord]
    have hanswer : (s.step (.checkAnnotated fields)).value.2 =
        (s.step (.check (schema fields).value record)).value.2 := by
      rw [Session.step_answer, Session.step_answer, hsession]
      rfl
    exact Prod.ext hsession hanswer
  · intro a ha
    exact ⟨field?_fieldMap fields hnames a ha, field?_hashMap fields hnames a ha,
      field?_treeMap fields hnames a ha⟩

/-- A session with an earlier violation, a field with an alias, a rule that is dropped and a
bound on a value that is no number. -/
theorem aliased_fields_agree :
    ∃ (fields : List RuledField) (s : Session),
      fields = [⟨"mail", some "address", "required|min_len:6", .text "nope"⟩,
        ⟨"age", none, "min:18|frob", .text "old"⟩] ∧
      s = (Session.fresh ⟨.report⟩).addError "age" "earlier" ∧
      (fields.map externalName).Nodup ∧
      (s.step (.checkAnnotated fields)).value =
        (s.step (.check (schema fields).value (FieldMap.ofList (bindings fields)))).value ∧
      (s.checkAnnotated fields).value.violations =
        [⟨"age", "earlier", "validation_error"⟩, ⟨"age", "Must be a number", "type_mismatch"⟩,
          ⟨"address", "Must be at least 6 characters", "min_len"⟩] := by
  refine ⟨_, _, rfl, rfl, by decide, ?_, by decide⟩
  have hagree := annotated_check_agrees [⟨"mail", some "address", "required|min_len:6",
    .text "nope"⟩, ⟨"age", none, "min:18|frob", .text "old"⟩] (by decide)
  exact hagree.1 _ _ fun a ha => (hagree.2 a ha).1

end Fieldwise.RuledField
