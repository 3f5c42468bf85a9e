import Fieldwise.Proofs.Declaring
import Fieldwise.Proofs.RuleText.Reading

/-!
# Building schemas

A schema is built by declaring fields, with constraints, with rule text, or with rule text
that has to be free of faults, and a declaration that is refused leaves the schema as it was.
The invariant of the build is that the schema is the map made of the declarations accepted so
far: a field has the place of its first declaration and the constraints of its last one.
-/

namespace Fieldwise

/-! ### Declarations -/

/-- A declaration of a field. -/
inductive Declaration
  | field (name : String) (constraints : Constraints)
  | rules (name text : String)
  | tryRules (name text : String)

namespace Declaration

/-- The schema with the field, or the fault for which the declaration is refused. -/
def apply (s : Schema) : Declaration → Except RuleError (Logged Schema)
  | field name constraints => .ok (pure (s.declare name constraints))
  | rules name text => .ok (s.rules name text)
  | tryRules name text => (s.tryRules name text).map pure

/-- The field that the declaration gives, and its constraints, if it is accepted. -/
def entry? : Declaration → Option (String × Constraints)
  | field name constraints => some (name, constraints)
  | rules name text => some (name, (RuleText.parse text).value)
  | tryRules name text =>
    if RuleText.diagnose text = [] then some (name, (RuleText.parse text).value) else none

/-- The fields of the declarations that are accepted, in order. -/
def accepted (ds : List Declaration) : List (String × Constraints) := ds.filterMap entry?

theorem accepted_concat (ds : List Declaration) (d : Declaration) :
    accepted (ds ++ [d]) = accepted ds ++ d.entry?.toList := by
  rw [accepted, List.filterMap_append, List.filterMap_cons, List.filterMap_nil]
  cases d.entry? with
  | none => rfl
  | some entry => rfl

end Declaration

namespace Schema

/-- Strict rule text declares what permissive rule text declares, or is refused for its first
fault. -/
theorem tryRules_eq (s : Schema) (name text : String) :
    s.tryRules name text =
      match RuleText.diagnose text with
      | [] => .ok (s.rules name text).value
      | e :: _ => .error e := by
  rw [tryRules, RuleText.parseStrict_eq]
  cases RuleText.diagnose text with
  | nil => rfl
  | cons e faults => rfl

theorem apply_eq (s : Schema) (d : Declaration) :
    match d.entry? with
    | some (name, constraints) => (d.apply s).map Logged.value = .ok (s.declare name constraints)
    | none => ∃ e, d.apply s = .error e := by
  cases d with
  | field name constraints => rfl
  | rules name text => rfl
  | tryRules name text =>
    have hstrict := s.tryRules_eq name text
    simp only [Declaration.entry?, Declaration.apply, hstrict]
    cases RuleText.diagnose text with
    | nil => rfl
    | cons e faults => exact ⟨e, rfl⟩

/-! ### Builds -/

/-- The schema after a declaration: the one before, if it is refused. -/
def extend (s : Schema) (d : Declaration) : Logged Schema :=
  match d.apply s with
  | .ok next => next
  | .error _ => pure s

/-- The schema that the declarations build, one after the other. -/
def build (ds : List Declaration) : Logged Schema := ds.foldlM extend ∅

theorem value_extend (s : Schema) (d : Declaration) :
    (s.extend d).value = d.entry?.toList.foldl (fun s entry => s.declare entry.1 entry.2) s := by
  have happly := s.apply_eq d
  unfold extend
  cases hentry : d.entry? with
  | none =>
    rw [hentry] at happly
    obtain ⟨e, he⟩ := happly
    rw [he]
    rfl
  | some entry =>
    obtain ⟨name, constraints⟩ := entry
    rw [hentry] at happly
    cases hresult : d.apply s with
    | error e =>
      rw [hresult] at happly
      cases happly
    | ok next =>
      rw [hresult] at happly
      exact Except.ok.inj happly

theorem build_concat (ds : List Declaration) (d : Declaration) :
    build (ds ++ [d]) = build ds >>= fun s => s.extend d := by
  rw [build, List.foldlM_append]
  apply bind_congr
  intro s
  rw [List.foldlM_cons]
  exact bind_pure _

/-- What holds along every build: the schema declares the accepted fields in order. -/
theorem value_build (ds : List Declaration) :
    (build ds).value = ofFields (Declaration.accepted ds) := by
  induction ds using List.reverseRecOn with
  | nil => rfl
  | append_singleton ds d ih =>
    rw [build_concat, Logged.value_bind, ih, value_extend, Declaration.accepted_concat, ofFields,
      ofFields, List.foldl_append]

/-- The schema that accepted fields make: their names once, by first appearance, each with the
constraints that it was given last, and no other name. -/
structure MadeOf (s : Schema) (accepted : List (String × Constraints)) : Prop where
  distinct : s.names.Nodup
  ordered : s.names = (accepted.map Prod.fst).eraseDups
  contents : ∀ name, s.get? name = Entries.last? name accepted
  absent : ∀ name, s.get? name = none ↔ name ∉ accepted.map Prod.fst
  counted : s.size = s.names.length

theorem madeOf_ofFields (fields : List (String × Constraints)) :
    (ofFields fields).MadeOf fields where
  distinct := (ofFields fields).nodup_names
  ordered := by
    rw [names, fields_ofFields, FieldMap.keys_ofList]
    rfl
  contents := by
    intro name
    rw [get?, fields_ofFields, FieldMap.get?_ofList_eq_last?]
  absent := by
    intro name
    have hnone := Entries.get?_eq_none_iff name (ofFields fields).fields.entries
    have hkeys : Entries.keys (ofFields fields).fields.entries =
        (fields.map Prod.fst).eraseDups := by
      rw [fields_ofFields]
      exact FieldMap.keys_ofList fields
    rw [hkeys, List.mem_eraseDups] at hnone
    exact hnone
  counted := (List.length_map ..).symm

/-- Every build gives the schema made of the declarations that were accepted, and a refused
one leaves it as it was. Constraints and permissive rule text are always accepted; strict rule
text is exactly if it has no fault, and then declares what permissive reading declares. -/
theorem build_keeps_accepted (ds : List Declaration) :
    (build ds).value.MadeOf (Declaration.accepted ds) ∧
    (∀ d, (build (ds ++ [d])).value =
      match d.apply (build ds).value with
      | .ok next => next.value
      | .error _ => (build ds).value) ∧
    (∀ (s : Schema) (d : Declaration),
      match d.entry? with
      | some (name, constraints) =>
        (d.apply s).map Logged.value = .ok (s.declare name constraints)
      | none => ∃ e, d.apply s = .error e) ∧
    ∀ (s : Schema) (name text : String),
      ((∃ next, s.tryRules name text = .ok next) ↔ RuleText.diagnose text = []) ∧
      s.tryRules name text =
        match RuleText.diagnose text with
        | [] => .ok (s.rules name text).value
        | e :: _ => .error e := by
  refine ⟨?_, ?_, apply_eq, ?_⟩
  · rw [value_build]
    exact madeOf_ofFields (Declaration.accepted ds)
  · intro d
    rw [build_concat, Logged.value_bind, extend]
    cases d.apply (build ds).value with
    | ok next => rfl
    | error e => rfl
  · intro s name text
    refine ⟨?_, s.tryRules_eq name text⟩
    rw [s.tryRules_eq name text]
    cases RuleText.diagnose text with
    | nil => simp
    | cons e faults => simp

example :
    let s := (build [.rules "a" "required", .rules "b" "email|frob", .tryRules "c" "min:x",
      .tryRules "a" "ip|alpha"]).value
    s.names = ["a", "b"] ∧ (s.get? "a").map (List.map Constraint.code) = some ["ip", "alpha"] := by
  decide

end Schema

end Fieldwise
