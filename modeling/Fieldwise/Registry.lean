import Fieldwise.Session
import Fieldwise.Text.Quoted

/-!
# Registries

A registry keeps schemas by name, in the order in which they are registered. A name
is registered once, and its schema stays what it is.
-/

namespace Fieldwise

/-- The schemas by name. -/
structure Registry where
  schemas : FieldMap Schema

/-- A name that cannot be used. -/
inductive RegistryError
  | duplicateName (name : String)
  | schemaNotFound (name : String)
deriving DecidableEq, Repr

def RegistryError.message : RegistryError → String
  | duplicateName name => "schema '" ++ name ++ "' already registered"
  | schemaNotFound name => "schema '" ++ name ++ "' not found"

namespace Registry

/-- The registry without schemas. -/
def empty : Registry := ⟨.empty⟩

instance : EmptyCollection Registry := ⟨empty⟩

def get? (r : Registry) (name : String) : Option Schema := r.schemas.get? name

/-- The names, in the order of registration. -/
def names (r : Registry) : List String := r.schemas.keys

def size (r : Registry) : Nat := r.schemas.size

/-- A registry without schemas. -/
def isEmpty (r : Registry) : Bool := r.schemas.isEmpty

def register (r : Registry) (name : String) (schema : Schema) :
    Except RegistryError (Logged Registry) :=
  if r.schemas.contains name then .error (.duplicateName name)
  else .ok do
    Logged.report (.registered name schema.size)
    return ⟨r.schemas.insert name schema⟩

def validate {ρ : Type} [Record ρ] (r : Registry) (name : String) (record : ρ) :
    Except RegistryError (Logged ValidationResult) :=
  match r.get? name with
  | none => .error (.schemaNotFound name)
  | some schema => .ok (schema.validate record)

def debug (r : Registry) : String :=
  "SchemaRegistry \x7b names: " ++ Text.quoteList r.names ++ " \x7d"

end Registry

end Fieldwise
