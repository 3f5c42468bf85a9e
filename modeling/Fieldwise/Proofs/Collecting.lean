import Fieldwise.Proofs.Grouping
import Fieldwise.Session

/-!
# What a session holds

A session that is given violations has that many more, and is valid no longer if there are
any. One that starts without violations and is given a list of them holds the list grouped
by field: its buckets are the groups, and every reading of the session is a reading of the
list.
-/

namespace Fieldwise

universe u

/-! ### Entries that are changed -/

theorem Entries.alter_ne_nil {α : Type u} (key : String) (f : Option α → α)
    (entries : List (String × α)) : Entries.alter key f entries ≠ [] := by
  cases entries with
  | nil => exact List.cons_ne_nil _ _
  | cons entry rest =>
    simp only [Entries.alter]
    split
    · exact List.cons_ne_nil _ _
    · exact List.cons_ne_nil _ _

theorem Entries.length_values_push {α : Type u} (key : String) (a : α)
    (entries : List (String × List α)) :
    ((Entries.alter key (fun old => old.getD [] ++ [a]) entries).map Prod.snd).flatten.length =
      (entries.map Prod.snd).flatten.length + 1 := by
  induction entries with
  | nil => rfl
  | cons entry rest ih =>
    simp only [Entries.alter]
    split
    · simp only [Option.getD_some, List.map_cons, List.flatten_cons, List.length_append,
        List.length_cons, List.length_nil]
      omega
    · simp only [List.map_cons, List.flatten_cons, List.length_append, ih]
      omega

namespace Session

/-! ### Violations added to any session -/

theorem isValid_addAll (s : Session) (vs : List Violation) :
    (s.addAll vs).isValid = (s.isValid && vs.isEmpty) := by
  induction vs generalizing s with
  | nil => exact (Bool.and_true _).symm
  | cons v rest ih =>
    have hadded : (s.add v).isValid = false :=
      List.isEmpty_eq_false_iff.mpr (Entries.alter_ne_nil _ _ _)
    have hrest : (s.addAll (v :: rest)).isValid = ((s.add v).isValid && rest.isEmpty) :=
      ih (s.add v)
    rw [hrest, hadded, List.isEmpty_cons, Bool.and_false, Bool.false_and]

theorem size_addAll (s : Session) (vs : List Violation) :
    (s.addAll vs).size = s.size + vs.length := by
  induction vs generalizing s with
  | nil => rfl
  | cons v rest ih =>
    have hadded : (s.add v).size = s.size + 1 := by
      rw [size_eq_length_violations, size_eq_length_violations]
      exact Entries.length_values_push _ _ _
    have hrest : (s.addAll (v :: rest)).size = (s.add v).size + rest.length := ih (s.add v)
    rw [hrest, hadded, List.length_cons]
    omega

/-! ### Violations added to the fresh session -/

variable (o : Options) (vs : List Violation)

/-- The session without violations. -/
def fresh : Session := ⟨o, .empty⟩

theorem addAll_fresh : (fresh o).addAll vs = ⟨o, Grouping.collect Violation.field id vs⟩ := by
  induction vs using List.reverseRecOn with
  | nil => rfl
  | append_singleton vs v ih =>
    rw [addAll_append, ih, Grouping.collect_concat]
    rfl

theorem entries_addAll_fresh :
    ((fresh o).addAll vs).buckets.entries = Grouping.groups Violation.field vs := by
  rw [addAll_fresh, Grouping.collect_entries]
  simp

theorem violations_addAll_fresh :
    ((fresh o).addAll vs).violations = Grouping.regrouped Violation.field vs := by
  rw [violations, FieldMap.values, entries_addAll_fresh, Grouping.groups_values]

theorem size_addAll_fresh : ((fresh o).addAll vs).size = vs.length := by
  rw [size_addAll]
  exact Nat.zero_add _

theorem isValid_addAll_fresh : ((fresh o).addAll vs).isValid = vs.isEmpty := by
  rw [isValid_addAll]
  exact Bool.true_and _

theorem fieldErrors_addAll_fresh :
    ((fresh o).addAll vs).fieldErrors.entries =
      (Grouping.groups Violation.field vs).map fun g => (g.1, g.2.map Violation.message) := by
  simp only [fieldErrors, FieldMap.mapValues, entries_addAll_fresh]

theorem fieldErrors_eq_collect :
    ((fresh o).addAll vs).fieldErrors = Grouping.collect Violation.field Violation.message vs := by
  apply FieldMap.eq_of_entries
  rw [fieldErrors_addAll_fresh, Grouping.collect_entries]

theorem keys_fieldErrors_addAll_fresh :
    ((fresh o).addAll vs).fieldErrors.keys = Grouping.names Violation.field vs := by
  have hkeys := Entries.keys_map (fun _ => List.map Violation.message)
    (Grouping.groups Violation.field vs)
  rw [FieldMap.keys, fieldErrors_addAll_fresh, hkeys, Grouping.groups_keys]

end Session

end Fieldwise
