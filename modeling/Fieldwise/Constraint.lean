import Fieldwise.Calendar.Layout
import Fieldwise.Pattern.Basic
import Fieldwise.Text.Quoted
import Fieldwise.Value.Basic

/-!
# Constraints

A constraint is a rule, and a message that may replace the usual one. A rule has a
code, by which programs tell the kinds apart, and a message. A rule that comes with a
parameter which cannot be used makes no constraint.
-/

namespace Fieldwise

open Calendar (Layout Timestamp)

/-! ### Rules -/

/-- What a constraint asks of a value. A pattern is shown by its source. A custom rule
gives the words for what it finds wrong. -/
inductive Rule
  | required
  | min (bound : Int64)
  | max (bound : Int64)
  | minLength (least : UInt64)
  | maxLength (most : UInt64)
  | email
  | url
  | alpha
  | alphanumeric
  | numeric
  | uuid
  | ip
  | ipv4
  | ipv6
  | pattern (p : Pattern) (source : String)
  | oneOf (options : List String)
  | notOneOf (options : List String)
  | equal (expected : String)
  | notEqual (expected : String)
  | timeFormat (layout : Layout)
  | after (boundary : Timestamp)
  | before (boundary : Timestamp)
  | custom (check : Value → Option String)

namespace Rule

def code : Rule → String
  | required => "required"
  | min _ => "min"
  | max _ => "max"
  | minLength _ => "min_len"
  | maxLength _ => "max_len"
  | email => "email"
  | url => "url"
  | alpha => "alpha"
  | alphanumeric => "alphanum"
  | numeric => "numeric"
  | uuid => "uuid"
  | ip => "ip"
  | ipv4 => "ipv4"
  | ipv6 => "ipv6"
  | pattern _ _ => "regex"
  | oneOf _ => "in"
  | notOneOf _ => "not_in"
  | equal _ => "equal"
  | notEqual _ => "not_equal"
  | timeFormat .date => "date"
  | timeFormat .time => "time"
  | timeFormat .dateTime => "datetime"
  | timeFormat (.custom _) => "time_format"
  | after _ => "after"
  | before _ => "before"
  | custom _ => "custom"

def intText (n : Int64) : String := String.ofList (Number.integer n.toInt)

def lengthText (n : UInt64) : String := String.ofList (Number.natural n.toNat)

def optionsText (options : List String) : String := String.intercalate ", " options

/-- The usual message of the rule. -/
def template : Rule → String
  | required => "This field is required"
  | min bound => "Must be at least " ++ intText bound
  | max bound => "Must be at most " ++ intText bound
  | minLength least => "Must be at least " ++ lengthText least ++ " characters"
  | maxLength most => "Must be at most " ++ lengthText most ++ " characters"
  | email => "Must be a valid email address"
  | url => "Must be a valid URL"
  | alpha => "Must contain only letters"
  | alphanumeric => "Must contain only letters and numbers"
  | numeric => "Must be a valid number"
  | uuid => "Must be a valid UUID"
  | ip => "Must be a valid IP address"
  | ipv4 => "Must be a valid IPv4 address"
  | ipv6 => "Must be a valid IPv6 address"
  | pattern _ source => "Must match pattern " ++ source
  | oneOf options => "Must be one of: " ++ optionsText options
  | notOneOf options => "Must not be one of: " ++ optionsText options
  | equal expected => "Must be equal to " ++ expected
  | notEqual expected => "Must not be equal to " ++ expected
  | timeFormat .date => "Must be a valid date (YYYY-MM-DD)"
  | timeFormat .time => "Must be a valid time (HH:MM:SS)"
  | timeFormat .dateTime => "Must be a valid datetime (RFC 3339)"
  | timeFormat (.custom layout) => "Must match time format " ++ layout
  | after boundary => "Must be after " ++ boundary.toText
  | before boundary => "Must be before " ++ boundary.toText
  | custom _ => "Is invalid"

def layoutDebug : Layout → String
  | .date => "Date"
  | .time => "Time"
  | .dateTime => "DateTime"
  | .custom layout => "Custom(" ++ Text.quote layout ++ ")"

/-- The form in diagnostic output: a parameter in parentheses after a name, and the
code alone for a rule without one. -/
def debug : Rule → String
  | min bound => "Min(" ++ intText bound ++ ")"
  | max bound => "Max(" ++ intText bound ++ ")"
  | minLength least => "MinLength(" ++ lengthText least ++ ")"
  | maxLength most => "MaxLength(" ++ lengthText most ++ ")"
  | pattern _ source => "Pattern(" ++ Text.quote source ++ ")"
  | oneOf options => "OneOf(" ++ Text.quoteList options ++ ")"
  | notOneOf options => "NotOneOf(" ++ Text.quoteList options ++ ")"
  | equal expected => "Equal(" ++ Text.quote expected ++ ")"
  | notEqual expected => "NotEqual(" ++ Text.quote expected ++ ")"
  | timeFormat layout => "TimeFormat(" ++ layoutDebug layout ++ ")"
  | after boundary => "After(" ++ boundary.toText ++ ")"
  | before boundary => "Before(" ++ boundary.toText ++ ")"
  | custom _ => "Custom(<fn>)"
  | rule => rule.code

end Rule

/-! ### Constraints -/

/-- A rule, and the message that replaces the usual one, if there is one. -/
structure Constraint where
  rule : Rule
  override : Option String := none

namespace Constraint

def code (c : Constraint) : String := c.rule.code

/-- The constraint asks for a value to be there. -/
def isRequired (c : Constraint) : Bool :=
  match c.rule with
  | .required => true
  | _ => false

def message (c : Constraint) : String := c.override.getD c.rule.template

/-- The constraint with a message of its own. -/
def withMessage (c : Constraint) (message : String) : Constraint := ⟨c.rule, some message⟩

def debug (c : Constraint) : String :=
  let override :=
    match c.override with
    | none => "None"
    | some message => "Some(" ++ Text.quote message ++ ")"
  "Constraint \x7b kind: " ++ c.rule.debug ++ ", message: " ++ override ++ " \x7d"

end Constraint

/-! ### Parameters that cannot be used -/

/-- A rule that makes no constraint. -/
inductive ConstraintError
  | invalidLayout (layout : String)
  | patternMismatch (declared compiled : String)
deriving DecidableEq, Repr

def ConstraintError.message : ConstraintError → String
  | invalidLayout layout => "invalid time layout '" ++ layout ++ "'"
  | patternMismatch declared compiled =>
    "pattern source '" ++ declared ++ "' does not match compiled regex '" ++ compiled ++ "'"

namespace Constraint

/-- Refuses a layout with a directive that does not exist, and a blank one. -/
def checkLayout (layout : String) : Except ConstraintError Unit :=
  if Layout.isUsable layout then .ok () else .error (.invalidLayout layout)

/-- The constraint with a rule whose parameters can be used: a layout all of whose
directives exist, and a pattern shown by the source it was made from. -/
def ofRule? (rule : Rule) : Except ConstraintError Constraint :=
  match rule with
  | .timeFormat (.custom layout) => do
    checkLayout layout
    return ⟨rule, none⟩
  | .pattern p source =>
    if p.source = source then .ok ⟨rule, none⟩ else .error (.patternMismatch source p.source)
  | _ => .ok ⟨rule, none⟩

/-- The constraint that a value shows a point in time in a layout. -/
def timeFormat? (layout : String) : Except ConstraintError Constraint := do
  checkLayout layout
  return ⟨.timeFormat (.custom layout), none⟩

theorem timeFormat?_of_isUsable {layout : String} (h : Layout.isUsable layout = true) :
    timeFormat? layout = .ok ⟨.timeFormat (.custom layout), none⟩ := by
  rw [timeFormat?, checkLayout, if_pos h]
  rfl

theorem timeFormat?_of_refused {layout : String} (h : Layout.isUsable layout = false) :
    timeFormat? layout = .error (.invalidLayout layout) := by
  rw [timeFormat?, checkLayout, if_neg (Bool.eq_false_iff.mp h)]
  rfl

def pattern? (source : String) : Except PatternError Constraint := do
  let p ← Pattern.compile source
  return ⟨.pattern p source, none⟩

end Constraint

/-! ### The constraints of a field -/

/-- The constraints of a field, in the order in which they are checked. -/
abbrev Constraints := List Constraint

/-- The first constraint that asks for a value to be there. -/
def Constraints.required? (constraints : Constraints) : Option Constraint :=
  constraints.find? Constraint.isRequired

/-- Some constraint asks for a value to be there. -/
def Constraints.isRequired (constraints : Constraints) : Bool :=
  constraints.any Constraint.isRequired

end Fieldwise
