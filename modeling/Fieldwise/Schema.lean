import Fieldwise.FieldMap
import Fieldwise.RuleText.Basic

/-!
# Schemas

A schema gives every field its constraints, fields in the order in which they are
declared. A field that is declared again has its new constraints in its old place.
-/

namespace Fieldwise

/-- The fields to check, with their constraints. -/
structure Schema where
  fields : FieldMap Constraints

namespace Schema

/-- The schema without fields. -/
def empty : Schema := ⟨.empty⟩

instance : EmptyCollection Schema := ⟨empty⟩

def declare (s : Schema) (name : String) (constraints : Constraints) : Schema :=
  ⟨s.fields.insert name constraints⟩

/-- Declares a field by rule text; tokens that make no constraint are dropped. -/
def rules (s : Schema) (name text : String) : Logged Schema := do
  return s.declare name (← RuleText.parse text)

/-- Declares a field by rule text, all of whose tokens have to make a constraint. -/
def tryRules (s : Schema) (name text : String) : Except RuleError Schema :=
  (RuleText.parseStrict text).map (s.declare name)

def get? (s : Schema) (name : String) : Option Constraints := s.fields.get? name

/-- The names of the fields, in order. -/
def names (s : Schema) : List String := s.fields.keys

def size (s : Schema) : Nat := s.fields.size

/-- A schema without fields. -/
def isEmpty (s : Schema) : Bool := s.fields.isEmpty

theorem get?_declare (s : Schema) (name other : String) (constraints : Constraints) :
    (s.declare name constraints).get? other =
      if other = name then some constraints else s.get? other :=
  FieldMap.get?_insert s.fields name other constraints

theorem nodup_names (s : Schema) : s.names.Nodup := s.fields.nodup_keys

end Schema

end Fieldwise
