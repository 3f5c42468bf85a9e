import Fieldwise.Proofs.Declaring
import Fieldwise.Proofs.Evaluation
import Fieldwise.Proofs.Log
import Mathlib.Data.List.Forall2

/-!
# Schemas in another order

A schema with its fields in another order, and the constraints of each field in another order,
finds the same in every record, in another order. Every constraint speaks for itself, and the
one that asks for a value speaks wherever it stands; only if a field has several of these does
their order decide which of them gives the message.
-/

namespace Fieldwise

/-! ### Fields -/

namespace Constraints

variable (cs ds : Constraints)

theorem filter_isRequired_eq (h : cs.Perm ds) (hone : cs.countP Constraint.isRequired ≤ 1) :
    cs.filter Constraint.isRequired = ds.filter Constraint.isRequired := by
  have hperm := h.filter Constraint.isRequired
  rw [List.countP_eq_length_filter] at hone
  cases hrequired : cs.filter Constraint.isRequired with
  | nil =>
    rw [hrequired] at hperm
    exact hperm.symm.eq_nil.symm
  | cons c rest =>
    have hrest : rest = [] := by
      rw [hrequired, List.length_cons] at hone
      exact List.eq_nil_of_length_eq_zero (by omega)
    rw [hrequired, hrest] at hperm
    rw [hrest]
    exact List.singleton_perm.mp hperm

/-- A value is asked about, and a missing one asked for, whatever the order. -/
theorem due_perm (h : cs.Perm ds) (hone : cs.countP Constraint.isRequired ≤ 1)
    (options : Options) (field : String) (v : Option Value) :
    (cs.due options field v).Perm (ds.due options field v) := by
  have hasked : cs.asked? v = ds.asked? v := by
    rw [asked?, asked?, h.isEmpty_eq]
  rw [due_eq_asked, due_eq_asked, hasked]
  cases ds.asked? v with
  | none =>
    simp only [dueMissing, filter_isRequired_eq cs ds h hone]
    exact List.Perm.refl _
  | some v => exact h.filterMap _

-- Of two constraints that ask for a value, the first one gives the message.
example : Constraints.due {} "x" [⟨.required, some "a"⟩, ⟨.required, some "b"⟩] none ≠
    Constraints.due {} "x" [⟨.required, some "b"⟩, ⟨.required, some "a"⟩] none := by
  decide

end Constraints

/-! ### Records -/

namespace Schema

/-- The same fields in some order, each with its constraints in some order. -/
def Reordered (s t : Schema) : Prop :=
  ∃ fields, s.fields.entries.Perm fields ∧
    List.Forall₂ (fun a b => a.1 = b.1 ∧ a.2.Perm b.2) fields t.fields.entries

/-- No field has several constraints that ask for a value. -/
def RequiresOnce (s : Schema) : Prop :=
  ∀ field ∈ s.fields.entries, field.2.countP Constraint.isRequired ≤ 1

variable {ρ : Type} [Record ρ]

theorem due_perm_of_forall₂ (options : Options) (record : ρ)
    {fields others : List (String × Constraints)}
    (h : List.Forall₂ (fun a b => a.1 = b.1 ∧ a.2.Perm b.2) fields others)
    (hone : ∀ field ∈ fields, field.2.countP Constraint.isRequired ≤ 1) :
    (fields.flatMap fun (name, constraints) =>
        constraints.due options name (Record.field? record name)).Perm
      (others.flatMap fun (name, constraints) =>
        constraints.due options name (Record.field? record name)) := by
  induction h with
  | nil => exact List.Perm.refl _
  | @cons a b _ _ hfield _ ih =>
    obtain ⟨name, cs⟩ := a
    obtain ⟨other, ds⟩ := b
    obtain ⟨rfl, hperm⟩ := hfield
    have hhead := Constraints.due_perm cs ds hperm (hone _ (List.mem_cons_self ..)) options name
      (Record.field? record name)
    have hrest := ih fun field hmem => hone field (List.mem_cons_of_mem _ hmem)
    rw [List.flatMap_cons, List.flatMap_cons]
    exact hhead.append hrest

theorem due_perm (s t : Schema) (h : s.Reordered t) (hone : s.RequiresOnce)
    (options : Options) (record : ρ) : (s.due options record).Perm (t.due options record) := by
  obtain ⟨fields, hfields, hconstraints⟩ := h
  have honce : ∀ field ∈ fields, field.2.countP Constraint.isRequired ≤ 1 :=
    fun field hmem => hone field (hfields.mem_iff.mpr hmem)
  have hfirst := hfields.flatMap_right fun (name, constraints) =>
    constraints.due options name (Record.field? record name)
  exact hfirst.trans (due_perm_of_forall₂ options record hconstraints honce)

/-- Declaring the fields of a schema, and the constraints of each field, in another order
changes no verdict: a record is valid as before, has the same violations up to their order and
the same failing fields, and each of them has the same messages up to their order. -/
theorem reordering_keeps_verdict (s t : Schema) (h : s.Reordered t)
    (hone : s.RequiresOnce) (record : ρ) :
    (∀ options,
      ((s.validateWith options record).value = .valid ↔
        (t.validateWith options record).value = .valid) ∧
      (s.validateWith options record).value.toList.Perm
        (t.validateWith options record).value.toList ∧
      ∀ field, (∃ v ∈ (s.validateWith options record).value.toList, v.field = field) ↔
        ∃ v ∈ (t.validateWith options record).value.toList, v.field = field) ∧
    (s.evaluate record).value.1 = (t.evaluate record).value.1 ∧
    (s.evaluate record).value.2.keys.Perm (t.evaluate record).value.2.keys ∧
    ∀ field, (((s.evaluate record).value.2.get? field).getD []).Perm
      (((t.evaluate record).value.2.get? field).getD []) := by
  have hdue : ∀ options, (s.due options record).Perm (t.due options record) :=
    fun options => due_perm s t h hone options record
  refine ⟨?_, ?_, ?_, ?_⟩
  · intro options
    rw [value_validateWith, value_validateWith, ValidationResult.toList_ofList,
      ValidationResult.toList_ofList, ValidationResult.ofList_eq_valid_iff,
      ValidationResult.ofList_eq_valid_iff, ← List.isEmpty_iff, ← List.isEmpty_iff,
      (hdue options).isEmpty_eq]
    exact ⟨Iff.rfl, hdue options, fun field => by simp only [(hdue options).mem_iff]⟩
  · rw [value_evaluate, value_evaluate]
    exact (hdue {}).isEmpty_eq
  · rw [value_evaluate, value_evaluate, Grouping.collect_keys, Grouping.collect_keys]
    exact Grouping.names_perm _ _ _ (hdue {})
  · intro field
    rw [value_evaluate, value_evaluate, Grouping.collect_get?, Grouping.collect_get?]
    exact (Grouping.under_perm _ field _ _ (hdue {})).map _

/-- Both fields change places, and the required one is no longer first in its field. -/
theorem shuffled_schema_agrees :
    ∃ (s t : Schema) (record : FieldMap Value),
      s = ofFields [("name", [⟨.required, none⟩, ⟨.minLength 3, none⟩, ⟨.alpha, none⟩]),
        ("age", [⟨.min 18, none⟩])] ∧
      t = ofFields [("age", [⟨.min 18, none⟩]),
        ("name", [⟨.alpha, none⟩, ⟨.required, none⟩, ⟨.minLength 3, none⟩])] ∧
      record = .ofList [("name", .text "4x"), ("age", .int 7)] ∧
      s.Reordered t ∧ s.RequiresOnce ∧
      (s.validateWith {} record).value.toList.map Violation.code = ["min_len", "alpha", "min"] ∧
      (t.validateWith {} record).value.toList.map Violation.code = ["min", "alpha", "min_len"] ∧
      (s.validateWith {} record).value.toList.Perm (t.validateWith {} record).value.toList := by
  have hreordered : Reordered
      (ofFields [("name", [⟨.required, none⟩, ⟨.minLength 3, none⟩, ⟨.alpha, none⟩]),
        ("age", [⟨.min 18, none⟩])])
      (ofFields [("age", [⟨.min 18, none⟩]),
        ("name", [⟨.alpha, none⟩, ⟨.required, none⟩, ⟨.minLength 3, none⟩])]) := by
    refine ⟨_, List.Perm.swap .., .cons ⟨rfl, List.Perm.refl _⟩ (.cons ⟨rfl, ?_⟩ .nil)⟩
    exact @List.perm_append_comm Constraint [⟨.required, none⟩, ⟨.minLength 3, none⟩]
      [⟨.alpha, none⟩]
  have honce : RequiresOnce
      (ofFields [("name", [⟨.required, none⟩, ⟨.minLength 3, none⟩, ⟨.alpha, none⟩]),
        ("age", [⟨.min 18, none⟩])]) := by
    unfold RequiresOnce
    decide
  refine ⟨_, _, _, rfl, rfl, rfl, hreordered, honce, by decide, by decide, ?_⟩
  exact ((reordering_keeps_verdict _ _ hreordered honce _).1 {}).2.1

end Schema

end Fieldwise
