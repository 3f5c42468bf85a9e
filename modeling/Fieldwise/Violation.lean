import Fieldwise.FieldMap

/-!
# Violations

A violation says which field fails which rule. A failed validation gives at least
one, so a collection of violations is never empty; collections are joined in
order, and grouped by field in the order in which the fields first appear.
-/

namespace Fieldwise

/-- One failed rule on one field. -/
structure Violation where
  field : String
  message : String
  code : String := "validation_error"
deriving DecidableEq

/-- The line shown for a violation. -/
def Violation.toText (v : Violation) : String := v.field ++ ": " ++ v.message

/-- One or more violations, in order. -/
structure Violations where
  first : Violation
  rest : List Violation
deriving DecidableEq

namespace Violations

def single (v : Violation) : Violations := ⟨v, []⟩

/-- The violations of a list, if there is one. -/
def ofList? : List Violation → Option Violations
  | [] => none
  | v :: rest => some ⟨v, rest⟩

/-- The violations in order. -/
def toList (vs : Violations) : List Violation := vs.first :: vs.rest

def size (vs : Violations) : Nat := vs.toList.length

/-- The violations of both, those of the first before those of the second. -/
def combine (vs ws : Violations) : Violations := ⟨vs.first, vs.rest ++ ws.toList⟩

instance : Append Violations := ⟨combine⟩

def forField (vs : Violations) (field : String) : List Violation :=
  vs.toList.filter fun v => v.field == field

def withCode (vs : Violations) (code : String) : List Violation :=
  vs.toList.filter fun v => v.code == code

/-- The messages by field, fields in the order in which they first appear. -/
def byField (vs : Violations) : FieldMap (List String) :=
  vs.toList.foldl (fun groups v => groups.push v.field v.message) .empty

/-- The lines of the violations, with semicolons between them. -/
def toText (vs : Violations) : String :=
  String.intercalate "; " (vs.toList.map Violation.toText)

instance : ToString Violations := ⟨toText⟩

theorem toList_append (vs ws : Violations) :
    (vs ++ ws).toList = vs.toList ++ ws.toList := rfl

theorem toList_ne_nil (vs : Violations) : vs.toList ≠ [] := List.cons_ne_nil _ _

theorem ofList?_toList (vs : Violations) : ofList? vs.toList = some vs := rfl

theorem ofList?_eq_none_iff {l : List Violation} : ofList? l = none ↔ l = [] := by
  cases l <;> simp [ofList?]

end Violations

/-! ### Results -/

/-- What a validation gives. -/
inductive ValidationResult
  | valid
  | invalid (violations : Violations)
deriving DecidableEq

namespace ValidationResult

/-- The result of a list of violations: valid exactly if there is none. -/
def ofList (l : List Violation) : ValidationResult :=
  match Violations.ofList? l with
  | none => valid
  | some vs => invalid vs

/-- The violations, none for a valid result. -/
def toList : ValidationResult → List Violation
  | valid => []
  | invalid vs => vs.toList

/-- Both results: valid if both are, and else all violations in order. -/
def combine : ValidationResult → ValidationResult → ValidationResult
  | valid, result => result
  | result, valid => result
  | invalid vs, invalid ws => invalid (vs ++ ws)

instance : Append ValidationResult := ⟨combine⟩

/-- All results: valid if all are, and else all violations in order. -/
def combineAll (results : List ValidationResult) : ValidationResult := results.foldl (· ++ ·) valid

theorem toList_ofList (l : List Violation) : (ofList l).toList = l := by
  cases l <;> rfl

theorem ofList_toList (result : ValidationResult) : ofList result.toList = result := by
  cases result <;> rfl

theorem ofList_eq_valid_iff (l : List Violation) : ofList l = valid ↔ l = [] := by
  cases l with
  | nil => exact iff_of_true rfl rfl
  | cons v rest => exact iff_of_false ValidationResult.noConfusion (List.cons_ne_nil v rest)

theorem toList_append (a b : ValidationResult) : (a ++ b).toList = a.toList ++ b.toList := by
  cases a with
  | valid => cases b <;> rfl
  | invalid vs =>
    cases b with
    | valid => exact (List.append_nil _).symm
    | invalid ws => rfl

end ValidationResult

end Fieldwise
