import Fieldwise.Proofs.Declaring
import Fieldwise.Proofs.Evaluation
import Fieldwise.Proofs.Overrides

/-!
# More constraints on a field

What the check of a field records for some constraints is the beginning of what it records for
them and more after them. So a schema whose fields go on where those of another end finds, field by
field, what the other finds and more: it accepts no record that the other refuses.
-/

namespace Fieldwise

/-! ### Fields -/

namespace Constraints

theorem due_prefix (options : Options) (field : String) (v : Option Value) (cs ds : Constraints) :
    cs.due options field v <+: (cs ++ ds).due options field v := by
  -- Each constraint at the end adds its own violations, whatever stands before it.
  induction ds using List.reverseRecOn with
  | nil => simp only [List.append_nil, List.prefix_refl]
  | append_singleton ds d ih =>
    rw [← List.append_assoc, due_concat]
    exact ih.trans (List.prefix_append _ _)

theorem exists_checkField_append (s : Session) (field : String) (v : Option Value)
    (cs ds : Constraints) :
    ∃ more, (s.checkField field v (cs ++ ds)).value =
      (s.checkField field v cs).value.addAll more := by
  obtain ⟨more, hmore⟩ := due_prefix s.options field v cs ds
  refine ⟨more, ?_⟩
  rw [Session.value_checkField, Session.value_checkField, value_check, value_check, ← hmore,
    Session.addAll_append]

end Constraints

/-! ### Schemas -/

namespace Schema

/-- The constraints of every field in the one schema are the first of those in the other. A field
that is not declared has none. -/
def Begins (s t : Schema) : Prop := ∀ name, (s.get? name).getD [] <+: (t.get? name).getD []

/-- The schema with more constraints on a field, after those that the field has. -/
def appendTo (s : Schema) (name : String) (more : Constraints) : Schema :=
  s.declare name ((s.get? name).getD [] ++ more)

/-- The schema with the first `n` constraints of a field, and no more on it. -/
def truncate (s : Schema) (name : String) (n : Nat) : Schema :=
  s.declare name (((s.get? name).getD []).take n)

theorem begins_appendTo (s : Schema) (name : String) (more : Constraints) :
    s.Begins (s.appendTo name more) := by
  intro other
  rw [appendTo, get?_declare]
  split
  · rename_i h
    rw [h]
    exact List.prefix_append _ _
  · exact List.prefix_refl _

theorem truncate_begins (s : Schema) (name : String) (n : Nat) : (s.truncate name n).Begins s := by
  intro other
  rw [truncate, get?_declare]
  split
  · rename_i h
    rw [h]
    exact List.take_prefix n _
  · exact List.prefix_refl _

variable {ρ : Type} [Record ρ] (s t : Schema) (options : Options) (record : ρ)

/-- What the schema finds in a record is found by the other too, which may find more: in every
field the violations of the one are the first of those of the other, and a record that the other
accepts is accepted. -/
structure FoundBy : Prop where
  appended : ∀ options name,
    ((s.validateWith options record).value.toList.filter fun v => v.field = name) <+:
      ((t.validateWith options record).value.toList.filter fun v => v.field = name)
  validated : ∀ options, (t.validateWith options record).value = .valid →
    (s.validateWith options record).value = .valid
  evaluated : (t.evaluate record).value.1 = true → (s.evaluate record).value.1 = true
  checked : ∀ session : Session, (session.check t record).value.isValid = true →
    (session.check s record).value.isValid = true

theorem under_due (name : String) :
    Grouping.under Violation.field name (s.due options record) = s.dueOn options record name := by
  have hfields : ∀ name ∈ s.names, ∀ v ∈ s.dueOn options record name, v.field = name :=
    fun name _ => s.field_of_mem_dueOn options record name
  rw [due_eq_flatMap]
  by_cases hname : name ∈ s.names
  · exact Grouping.under_flatMap Violation.field s.names _ s.nodup_names hfields name hname
  · -- A field that is not declared has no constraints, so nothing is due on it either.
    have hnone : s.get? name = none := (Entries.get?_eq_none_iff name s.fields.entries).mpr hname
    have hdue : s.dueOn options record name = [] := by
      rw [dueOn, hnone]
      rfl
    rw [hdue]
    apply List.filter_eq_nil_iff.mpr
    intro v hv hfield
    obtain ⟨other, hother, hmem⟩ := List.mem_flatMap.mp hv
    have hsame : other = name := (hfields other hother v hmem).symm.trans (of_decide_eq_true hfield)
    exact hname (hsame ▸ hother)

theorem under_due_prefix (h : s.Begins t) (name : String) :
    Grouping.under Violation.field name (s.due options record) <+:
      Grouping.under Violation.field name (t.due options record) := by
  obtain ⟨more, hmore⟩ := h name
  rw [under_due, under_due, dueOn, dueOn, ← hmore]
  exact Constraints.due_prefix options name _ _ more

theorem due_eq_nil_of_begins (h : s.Begins t) (hvalid : t.due options record = []) :
    s.due options record = [] := by
  apply List.eq_nil_iff_forall_not_mem.mpr
  intro v hv
  have hprefix := under_due_prefix s t options record h v.field
  have hmem : v ∈ Grouping.under Violation.field v.field (s.due options record) :=
    List.mem_filter.mpr ⟨hv, decide_eq_true rfl⟩
  rw [hvalid] at hprefix
  rw [List.prefix_nil.mp hprefix] at hmem
  exact absurd hmem List.not_mem_nil

theorem foundBy_of_begins (h : s.Begins t) : s.FoundBy t record where
  appended := by
    intro options name
    rw [value_validateWith, value_validateWith, ValidationResult.toList_ofList,
      ValidationResult.toList_ofList]
    exact under_due_prefix s t options record h name
  validated := by
    intro options
    rw [value_validateWith, value_validateWith, ValidationResult.ofList_eq_valid_iff,
      ValidationResult.ofList_eq_valid_iff]
    exact due_eq_nil_of_begins s t options record h
  evaluated := by
    rw [value_evaluate, value_evaluate, List.isEmpty_iff, List.isEmpty_iff]
    exact due_eq_nil_of_begins s t {} record h
  checked := by
    intro session
    rw [Session.value_check, Session.value_check, Session.isValid_addAll, Session.isValid_addAll,
      Bool.and_eq_true, Bool.and_eq_true, List.isEmpty_iff, List.isEmpty_iff]
    rintro ⟨hsession, hdue⟩
    exact ⟨hsession, due_eq_nil_of_begins s t session.options record h hdue⟩

/-- Checking a field by more constraints records what checking it by the first of them records, and
after that possibly more, whatever the value and the options are. So a schema with more constraints
at the end of a field refuses every record that it refuses without them, and one that leaves out the
last constraints of a field accepts every record that it accepts with them, in every session. -/
theorem appended_constraints_only_append :
    (∀ (session : Session) (field : String) (v : Option Value) (cs ds : Constraints),
      (cs.check session.options field v).value <+:
        (Constraints.check session.options field (cs ++ ds) v).value ∧
      ∃ more, (session.checkField field v (cs ++ ds)).value =
        (session.checkField field v cs).value.addAll more) ∧
    (∀ (schema : Schema) (name : String) (more : Constraints),
      schema.FoundBy (schema.appendTo name more) record) ∧
    ∀ (schema : Schema) (name : String) (n : Nat),
      (schema.truncate name n).FoundBy schema record := by
  refine ⟨?_, ?_, ?_⟩
  · intro session field v cs ds
    refine ⟨?_, Constraints.exists_checkField_append session field v cs ds⟩
    rw [Constraints.value_check, Constraints.value_check]
    exact Constraints.due_prefix session.options field v cs ds
  · intro schema name more
    exact foundBy_of_begins schema _ record (schema.begins_appendTo name more)
  · intro schema name n
    exact foundBy_of_begins _ schema record (schema.truncate_begins name n)

-- A constraint that asks for a value is added to a field that has none, and refuses the record.
example :
    let schema := ofFields [("name", [⟨.minLength 3, none⟩])]
    (schema.validate (.empty : FieldMap Value)).value.toList = [] ∧
    ((schema.appendTo "name" [⟨.required, none⟩]).validate (.empty : FieldMap Value)).value.toList =
      [⟨"name", "This field is required", "required"⟩] := by
  decide

end Schema

end Fieldwise
