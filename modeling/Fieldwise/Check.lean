import Fieldwise.Constraint
import Fieldwise.Event
import Fieldwise.Format
import Fieldwise.Violation

/-!
# Checking one field

A constraint finds something about a value: that it passes, that it fails, or that
the question does not apply. The constraints of a field are asked about a value that
is there and not empty. Otherwise a constraint that asks for a value speaks alone, and
without one the field is left as it is.
-/

namespace Fieldwise

/-! ### Options -/

/-- What becomes of a numeric bound on a value that is no number. -/
inductive MismatchPolicy
  | skip
  | report
deriving DecidableEq, Repr

def MismatchPolicy.toText : MismatchPolicy → String
  | skip => "Skip"
  | report => "Report"

/-- How a session checks. -/
structure Options where
  mismatch : MismatchPolicy := .skip
deriving DecidableEq, Repr

/-! ### Rules and values -/

/-- What a rule finds about a value. -/
inductive Finding
  | passed
  | failed
  | described (description : String)
  | notNumeric
  | unreadable (error : CoercionError)
deriving DecidableEq

/-- Passed or failed, as a test says. -/
def Finding.ofTest (holds : Bool) : Finding := if holds then passed else failed

def Finding.ofBound (holds : Int64 → Bool) (v : Value) : Finding :=
  match v.toInteger with
  | none => notNumeric
  | some n => ofTest (holds n)

/-- What a rule finds about a value. Formats are asked about the text form, and bounds in
time only about timestamps. -/
def Rule.find (v : Value) : Rule → Finding
  | .required => .passed
  | .min bound => .ofBound (fun n => Format.atLeast n bound) v
  | .max bound => .ofBound (fun n => Format.atMost n bound) v
  | .minLength least => .ofTest (Format.hasMinChars v.chars least)
  | .maxLength most => .ofTest (Format.hasMaxChars v.chars most)
  | .email => .ofTest (Format.isEmail v.chars)
  | .url => .ofTest (Format.isUrl v.chars)
  | .alpha => .ofTest (Format.isAlpha v.chars)
  | .alphanumeric => .ofTest (Format.isAlphanumeric v.chars)
  | .numeric => .ofTest (Format.isNumeric v.chars)
  | .uuid => .ofTest (Format.isUuid v.chars)
  | .ip => .ofTest (Format.isIp v.chars)
  | .ipv4 => .ofTest (Format.isIpv4 v.chars)
  | .ipv6 => .ofTest (Format.isIpv6 v.chars)
  | .pattern p _ => .ofTest (p.isMatch v.chars)
  | .oneOf options => .ofTest (Format.isOneOf v.chars options)
  | .notOneOf options => .ofTest (Format.isNotOneOf v.chars options)
  | .equal expected => .ofTest (Format.isEqual v.chars expected.toList)
  | .notEqual expected => .ofTest (!Format.isEqual v.chars expected.toList)
  | .timeFormat layout =>
    match v.toTimestamp layout with
    | .ok _ => .passed
    | .error e => .unreadable e
  | .after boundary => .ofTest (v.asTimestamp.all fun t => t.isAfter boundary)
  | .before boundary => .ofTest (v.asTimestamp.all fun t => t.isBefore boundary)
  | .custom check =>
    match check v with
    | none => .passed
    | some description => .described description

/-! ### Constraints and values -/

namespace Constraint

/-- The violation that says that a field fails the constraint. -/
def violation (c : Constraint) (field message : String) : Violation := ⟨field, message, c.code⟩

/-- The violation that says that a field should hold a number. -/
def typeMismatch (field : String) : Violation := ⟨field, "Must be a number", "type_mismatch"⟩

/-- The violations that a constraint finds in the value of a field, at most one. A
message of its own goes before the description that a custom rule gives. -/
def check (options : Options) (field : String) (v : Value) (c : Constraint) :
    Logged (List Violation) :=
  match c.rule.find v with
  | .passed => pure []
  | .failed => pure [c.violation field c.message]
  | .described description => pure [c.violation field (c.override.getD description)]
  | .notNumeric =>
    match options.mismatch with
    | .report => pure [typeMismatch field]
    | .skip => do
      Logged.report (.boundSkipped field c.code v.typeName)
      return []
  | .unreadable e => do
    Logged.report (.coercionFailed e)
    return [c.violation field c.message]

end Constraint

/-! ### Fields -/

namespace Constraints

/-- The violation of a field without a value, if one is asked for. -/
def checkMissing (field : String) (constraints : Constraints) : Logged (List Violation) :=
  match required? constraints with
  | none => pure []
  | some c => do
    Logged.report (.requiredMissing field)
    return [c.violation field c.message]

/-- The violations of a field with a value, those of every constraint in order. -/
def checkPresent (options : Options) (field : String) (constraints : Constraints) (v : Value) :
    Logged (List Violation) := do
  Logged.report (.evaluating field constraints.length)
  Logged.collect (Constraint.check options field v) constraints

def check (options : Options) (field : String) (constraints : Constraints) (v : Option Value) :
    Logged (List Violation) :=
  if constraints.isEmpty then pure []
  else
    match v.filter fun v => !v.isEmpty with
    | none => checkMissing field constraints
    | some v => checkPresent options field constraints v

end Constraints

end Fieldwise
