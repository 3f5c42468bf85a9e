import Fieldwise.Check
import Fieldwise.Record
import Fieldwise.Schema

/-!
# Sessions

A session collects the violations of one or more checks, by field: fields in the order
in which they first fail, and the violations of a field in the order in which they are
found. It is valid as long as it has none.
-/

namespace Fieldwise

/-- The violations so far, and how to check. -/
structure Session where
  options : Options := {}
  buckets : FieldMap (List Violation) := .empty

namespace Session

/-! ### Collecting -/

def add (s : Session) (v : Violation) : Session := ⟨s.options, s.buckets.push v.field v⟩

/-- Adds violations in order. -/
def addAll (s : Session) (vs : List Violation) : Session := vs.foldl add s

theorem addAll_append (s : Session) (vs ws : List Violation) :
    s.addAll (vs ++ ws) = (s.addAll vs).addAll ws := List.foldl_append

theorem options_addAll (s : Session) (vs : List Violation) : (s.addAll vs).options = s.options := by
  induction vs generalizing s with
  | nil => rfl
  | cons v rest ih => exact ih (s.add v)

/-- Adds a violation without a code of its own. -/
def addError (s : Session) (field message : String) : Session := s.add { field, message }

def clear (s : Session) : Session := ⟨s.options, .empty⟩

/-! ### Reading -/

def isValid (s : Session) : Bool := s.buckets.isEmpty

def isEmpty (s : Session) : Bool := s.buckets.isEmpty

def hasErrors (s : Session) : Bool := !s.buckets.isEmpty

/-- All violations, field by field. -/
def violations (s : Session) : List Violation := s.buckets.values.flatten

/-- The number of violations, counted field by field. -/
def size (s : Session) : Nat := s.buckets.values.foldr (fun vs count => vs.length + count) 0

theorem size_eq_length_violations (s : Session) : s.size = s.violations.length := by
  rw [size, violations]
  induction s.buckets.values with
  | nil => rfl
  | cons vs rest ih => rw [List.foldr_cons, ih, List.flatten_cons, List.length_append]

def errorsFor (s : Session) (field : String) : List String :=
  ((s.buckets.get? field).getD []).map Violation.message

def fieldErrors (s : Session) : FieldMap (List String) :=
  s.buckets.mapValues fun vs => vs.map Violation.message

def flatList (s : Session) : List String := s.violations.map Violation.toText

/-- The violations on one line, with semicolons between them. -/
def render (s : Session) : String := String.intercalate "; " s.flatList

instance : ToString Session := ⟨render⟩

def toJson (s : Session) : Json :=
  .object (s.fieldErrors.entries.map fun e => (e.1, .list (e.2.map .text)))

def result (s : Session) : ValidationResult := .ofList s.violations

/-! ### Checking -/

def checkField (s : Session) (field : String) (v : Option Value) (constraints : Constraints) :
    Logged Session := do
  return s.addAll (← constraints.check s.options field v)

theorem value_checkField (s : Session) (field : String) (v : Option Value)
    (constraints : Constraints) :
    (s.checkField field v constraints).value =
      s.addAll (constraints.check s.options field v).value := rfl

/-- Checks the fields that are left, in order. -/
def checkFields {ρ : Type} [Record ρ] (record : ρ) (s : Session) :
    List (String × Constraints) → Logged Session
  | [] => pure s
  | (name, constraints) :: rest => do
    let s ← s.checkField name (Record.field? record name) constraints
    s.checkFields record rest

/-- Checks a record: every field of the schema, in order. -/
def check {ρ : Type} [Record ρ] (s : Session) (schema : Schema) (record : ρ) :
    Logged Session := do
  let s ← s.checkFields record schema.fields.entries
  Logged.report (.checkedRecord schema.size s.size)
  return s

/-- Checks the annotated fields that are left, in order. -/
def checkRuledFields (s : Session) : List RuledField → Logged Session
  | [] => pure s
  | a :: rest => do
    let constraints ← RuleText.parse a.rules
    let s ← s.checkField a.externalName (some a.value) constraints
    s.checkRuledFields rest

def checkAnnotated (s : Session) (fields : List RuledField) : Logged Session := do
  let s ← s.checkRuledFields fields
  Logged.report (.checkedAnnotated fields.length s.size)
  return s

end Session

/-! ### Whole validations -/

namespace Schema

variable {ρ : Type} [Record ρ]

def validateWith (options : Options) (schema : Schema) (record : ρ) :
    Logged ValidationResult := do
  let session ← Session.check ⟨options, .empty⟩ schema record
  return session.result

/-- Validates a record, bounds on values that are no numbers left out. -/
def validate (schema : Schema) (record : ρ) : Logged ValidationResult :=
  schema.validateWith {} record

/-- Validates a record by one schema after the other, and joins the results in order. -/
def validateEach (options : Options) (schemas : List Schema) (record : ρ) :
    Logged ValidationResult := do
  let results ← schemas.mapM fun schema => schema.validateWith options record
  return .combineAll results

/-- Whether a record is valid, and the messages by field. -/
def evaluate (schema : Schema) (record : ρ) : Logged (Bool × FieldMap (List String)) := do
  let session ← Session.check {} schema record
  return (session.isValid, session.fieldErrors)

def validateBatch (schema : Schema) (records : List ρ) : List ValidationResult :=
  records.map fun record => (schema.validate record).value

end Schema

end Fieldwise
