import Fieldwise.RuleText.Basic
import Std.Data.HashMap
import Std.Data.TreeMap

/-!
# Records

A record gives values by the names of its fields. A record may also bring its own
rules: then it is a list of ruled fields, each with the name of a field, its rules and
its value.
-/

namespace Fieldwise

/-! ### Values by name -/

/-- What can be asked for the value of a field. -/
class Record (ρ : Type) where
  /-- The value of the field with a name. -/
  field? : ρ → String → Option Value

instance : Record (FieldMap Value) where
  field? record name := record.get? name

instance : Record (FieldMap Json) where
  field? record name := (record.get? name).map Value.ofJson

instance : Record (Std.HashMap String Value) where
  field? record name := record[name]?

instance : Record (Std.TreeMap String Value) where
  field? record name := record[name]?

/-- The value of a member of an object; other documents have no fields. -/
def Json.member? : Json → String → Option Json
  | .object members, name => Entries.get? name members
  | _, _ => none

instance : Record Json where
  field? document name := (document.member? name).map Value.ofJson

/-! ### Fields with rules -/

/-- A field that brings its rules. It is reported under its alias, if it has one. -/
structure RuledField where
  name : String
  alias? : Option String := none
  rules : String
  value : Value

namespace RuledField

def externalName (a : RuledField) : String := a.alias?.getD a.name

/-- The faults of the rules of all fields, in order. -/
def faults (fields : List RuledField) : List RuleError :=
  fields.flatMap fun a => RuleText.diagnose a.rules

end RuledField

end Fieldwise
