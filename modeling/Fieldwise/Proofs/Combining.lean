import Fieldwise.Proofs.Readers
import Mathlib.Algebra.GroupWithZero.Nat

/-!
# Collections that are joined

However a collection of violations is made, by joining collections on either side and by taking up
the violations of one anew, it is the list of what went into it. Grouping a joined collection by
field is grouping the first and adding the groups of the second.
-/

namespace Fieldwise

universe u

theorem Grouping.sum_length_groups {α : Type u} (key : α → String) (xs : List α) :
    ((groups key xs).map fun g => g.2.length).sum = xs.length := by
  rw [← regrouped_length key xs, ← groups_values, List.length_flatten, List.map_map]
  rfl

namespace Violations

/-! ### Making collections -/

/-- How a collection is made: from a first violation and the rest, by joining two collections, or
by taking up anew the violations of one. -/
inductive Making
  | violations (first : Violation) (rest : List Violation)
  | joined (before after : Making)
  | rebuilt (making : Making)

namespace Making

/-- The lists that went into the collection, in order. -/
def operands : Making → List (List Violation)
  | violations first rest => [first :: rest]
  | joined before after => before.operands ++ after.operands
  | rebuilt making => making.operands

/-- The collection, if there is one: a list is refused if it is empty. -/
def made? : Making → Option Violations
  | violations first rest => ofList? (first :: rest)
  | joined before after => do
    return (← before.made?) ++ (← after.made?)
  | rebuilt making => do
    ofList? (← making.made?).toList

theorem exists_made (making : Making) :
    ∃ vs, making.made? = some vs ∧ vs.toList = making.operands.flatten := by
  induction making with
  | violations first rest => exact ⟨⟨first, rest⟩, rfl, (List.append_nil _).symm⟩
  | joined before after ihbefore ihafter =>
    obtain ⟨vs, hvs, hbefore⟩ := ihbefore
    obtain ⟨ws, hws, hafter⟩ := ihafter
    refine ⟨vs ++ ws, ?_, ?_⟩
    · rw [made?, hvs, hws]
      rfl
    · rw [toList_append, hbefore, hafter, operands, List.flatten_append]
  | rebuilt making ih =>
    obtain ⟨vs, hvs, hlist⟩ := ih
    refine ⟨vs, ?_, hlist⟩
    rw [made?, hvs]
    exact ofList?_toList vs

end Making

/-! ### Groups -/

variable (vs ws : Violations)

theorem keys_byField : vs.byField.keys = Grouping.names Violation.field vs.toList :=
  Grouping.collect_keys Violation.field Violation.message vs.toList

theorem get?_byField_of_mem (field : String) (h : field ∈ vs.byField.keys) :
    vs.byField.get? field = some ((vs.forField field).map Violation.message) := by
  have hmessages : (vs.byField.get? field).getD [] =
      (vs.forField field).map Violation.message := by
    rw [forField_eq_under]
    exact Grouping.collect_get? Violation.field Violation.message vs.toList field
  cases hget : vs.byField.get? field with
  | none => exact absurd h ((Entries.get?_eq_none_iff field vs.byField.entries).mp hget)
  | some messages =>
    rw [hget, Option.getD_some] at hmessages
    rw [hmessages]

theorem forField_of_notMem (field : String) (h : field ∉ vs.byField.keys) :
    vs.forField field = [] := by
  rw [keys_byField] at h
  rw [forField_eq_under, Grouping.under_eq_nil Violation.field field vs.toList h]

theorem sum_length_byField : (vs.byField.values.map List.length).sum = vs.size := by
  rw [FieldMap.values, entries_byField, size, ← Grouping.sum_length_groups Violation.field]
  simp only [List.map_map, Function.comp_def, List.length_map]

/-- Joining adds the messages of the second collection field by field: a field of the first keeps
its place, and new ones follow in the order of the second. -/
theorem entries_byField_append :
    (vs ++ ws).byField.entries =
      (vs.byField.entries.map fun group =>
        (group.1, group.2 ++ (ws.forField group.1).map Violation.message)) ++
      ws.byField.entries.filter fun group => group.1 ∉ vs.byField.keys := by
  rw [entries_byField, entries_byField, entries_byField, keys_byField, toList_append,
    Grouping.groups_append, List.map_append, List.map_map, List.map_map, List.filter_map]
  simp only [Function.comp_def, List.map_append, forField_eq_under]

/-- However a collection is made, its violations are those that went into it, in order, and the
first of them is its first. Its groups are the distinct fields as they first appear, each with the
messages of its violations; no other field has violations, and the groups hold every violation
once. The groups of two collections that are joined are those of the first, each with the messages
of the second at its end, and after them the groups of the second under new fields. -/
theorem joined_violations_group :
    (∀ making : Making, ∃ vs, making.made? = some vs ∧
      vs.toList = making.operands.flatten ∧
      making.operands.flatten.head? = some vs.first ∧
      vs.byField.keys = (vs.toList.map Violation.field).eraseDups ∧
      (∀ field ∈ vs.byField.keys,
        vs.byField.get? field = some ((vs.forField field).map Violation.message)) ∧
      (∀ field, field ∉ vs.byField.keys → vs.forField field = []) ∧
      (vs.byField.values.map List.length).sum = vs.size) ∧
    ∀ a b : Violations, (a ++ b).byField.entries =
      (a.byField.entries.map fun group =>
        (group.1, group.2 ++ (b.forField group.1).map Violation.message)) ++
      b.byField.entries.filter fun group => group.1 ∉ a.byField.keys := by
  refine ⟨?_, entries_byField_append⟩
  intro making
  obtain ⟨vs, hvs, hlist⟩ := making.exists_made
  refine ⟨vs, hvs, hlist, ?_, vs.keys_byField, vs.get?_byField_of_mem, vs.forField_of_notMem,
    vs.sum_length_byField⟩
  rw [← hlist]
  rfl

-- The field that fails on both sides keeps its place, and its messages come together.
example :
    ((single ⟨"b", "1", "x"⟩ ++ single ⟨"a", "2", "x"⟩) ++
      (single ⟨"c", "3", "x"⟩ ++ single ⟨"b", "4", "x"⟩)).byField.entries =
      [("b", ["1", "4"]), ("a", ["2"]), ("c", ["3"])] := by
  decide

end Violations

end Fieldwise
