import Fieldwise.Proofs.Due

/-!
# The events that are due

What a check should report, said by the meaning of the rules alone, as the violations that
are due are: a value that is asked for and missing, a field that is evaluated, a bound that
is skipped, a text that shows no point in time. Checking a constraint, a field and a record
reports what is due, and ends with the size of the session.
-/

namespace Fieldwise

/-! ### What is due -/

/-- Why a value that should show a point in time shows none. -/
def Rule.unreadable? (v : Value) : Rule → Option CoercionError
  | .timeFormat layout =>
    match v.toTimestamp layout with
    | .ok _ => none
    | .error e => some e
  | _ => none

/-- The event that a constraint owes for a value that is there and not empty. -/
def Constraint.dueEvent? (options : Options) (field : String) (v : Value) (c : Constraint) :
    Option Event :=
  if c.rule.IsMismatch v then
    match options.mismatch with
    | .skip => some (.boundSkipped field c.code v.typeName)
    | .report => none
  else (c.rule.unreadable? v).map .coercionFailed

namespace Constraints

/-- The value that the constraints are asked about: one that is there and not empty. -/
def asked? (constraints : Constraints) (v : Option Value) : Option Value :=
  if constraints.isEmpty then none else v.filter fun v => !v.isEmpty

/-- The events due on a field. -/
def dueEvents (options : Options) (field : String) (constraints : Constraints)
    (v : Option Value) : List Event :=
  match constraints.asked? v with
  | none => if constraints.isRequired then [.requiredMissing field] else []
  | some v =>
    .evaluating field constraints.length ::
      constraints.filterMap (Constraint.dueEvent? options field v)

theorem due_eq_asked (options : Options) (field : String) (constraints : Constraints)
    (v : Option Value) :
    constraints.due options field v =
      match constraints.asked? v with
      | none => dueMissing field constraints
      | some v => constraints.filterMap (Constraint.due? options field v) := by
  cases constraints with
  -- Without constraints no value is asked about, and a missing one is not asked for either.
  | nil => rfl
  | cons c rest =>
    cases v with
    | none => rfl
    | some v =>
      by_cases hempty : v.isEmpty = true
      · simp only [due, asked?, List.isEmpty_cons, Bool.false_eq_true, ↓reduceIte, Option.filter,
          hempty, Bool.not_true]
      · simp only [due, asked?, List.isEmpty_cons, Bool.false_eq_true, ↓reduceIte, Option.filter,
          hempty, Bool.not_false]

end Constraints

/-- The events due on the fields of a record, in the order of the schema. -/
def Schema.dueEvents {ρ : Type} [Record ρ] (schema : Schema) (options : Options) (record : ρ) :
    List Event :=
  schema.fields.entries.flatMap fun (name, constraints) =>
    constraints.dueEvents options name (Record.field? record name)

/-! ### Checking a constraint -/

/-- The failed reading that a finding tells of. -/
def Finding.error? : Finding → Option CoercionError
  | unreadable e => some e
  | _ => none

theorem Finding.error?_ofTest (holds : Bool) : (ofTest holds).error? = none := by
  cases holds with
  | true => rfl
  | false => rfl

theorem Finding.error?_ofBound (holds : Int64 → Bool) (v : Value) :
    (ofBound holds v).error? = none := by
  unfold ofBound
  cases v.toInteger with
  | none => rfl
  | some n => exact error?_ofTest (holds n)

theorem Rule.error?_find (v : Value) (rule : Rule) : (rule.find v).error? = rule.unreadable? v := by
  cases rule with
  | required => rfl
  | min bound => exact Finding.error?_ofBound _ v
  | max bound => exact Finding.error?_ofBound _ v
  | timeFormat layout =>
    simp only [find, unreadable?]
    cases v.toTimestamp layout with
    | ok t => rfl
    | error e => rfl
  | custom check =>
    simp only [find]
    cases check v with
    | none => rfl
    | some description => rfl
  | _ => exact Finding.error?_ofTest _

theorem Constraint.events_check (options : Options) (field : String) (v : Value)
    (c : Constraint) : (c.check options field v).events = (c.dueEvent? options field v).toList := by
  have hfind := c.rule.explains_find v
  have herror := c.rule.error?_find v
  unfold Constraint.check Constraint.dueEvent?
  cases hf : c.rule.find v with
  | passed =>
    rw [hf] at hfind herror
    simp only [hfind.1, ↓reduceIte, ← herror]
    rfl
  | failed =>
    rw [hf] at hfind herror
    simp only [hfind.1, ↓reduceIte, ← herror]
    rfl
  | described description =>
    rw [hf] at hfind herror
    simp only [hfind.1, ↓reduceIte, ← herror]
    rfl
  | unreadable e =>
    rw [hf] at hfind herror
    simp only [hfind.1, ↓reduceIte, ← herror]
    rfl
  | notNumeric =>
    rw [hf] at hfind
    have hm : c.rule.IsMismatch v := hfind
    simp only [hm, ↓reduceIte]
    cases options.mismatch with
    | skip => rfl
    | report => rfl

theorem Constraint.level_of_dueEvent? (options : Options) (field : String) (v : Value)
    (c : Constraint) (event : Event) (h : c.dueEvent? options field v = some event) :
    event.level = .trace := by
  unfold Constraint.dueEvent? at h
  split at h
  · split at h
    · cases h
      rfl
    · cases h
  · obtain ⟨e, _, rfl⟩ := Option.map_eq_some_iff.mp h
    rfl

/-! ### Checking a field -/

namespace Constraints

theorem level_of_mem_dueEvents (options : Options) (field : String) (constraints : Constraints)
    (v : Option Value) (event : Event) (h : event ∈ constraints.dueEvents options field v) :
    event.level = .trace := by
  unfold dueEvents at h
  cases hasked : constraints.asked? v with
  | none =>
    rw [hasked] at h
    cases hrequired : constraints.isRequired with
    | true =>
      simp only [hrequired, ↓reduceIte] at h
      rw [List.mem_singleton.mp h]
      rfl
    | false =>
      simp only [hrequired] at h
      cases h
  | some v =>
    rw [hasked] at h
    rcases List.mem_cons.mp h with rfl | hmem
    · rfl
    · obtain ⟨c, _, hevent⟩ := List.mem_filterMap.mp hmem
      exact c.level_of_dueEvent? options field v event hevent

theorem events_checkMissing (field : String) (constraints : Constraints) :
    (checkMissing field constraints).events =
      if constraints.isRequired then [.requiredMissing field] else [] := by
  have hsome : constraints.isRequired = constraints.required?.isSome := List.isSome_find?.symm
  unfold checkMissing
  rw [hsome]
  cases constraints.required? with
  | none => rfl
  | some c => rfl

theorem events_checkPresent (options : Options) (field : String) (constraints : Constraints)
    (v : Value) :
    (checkPresent options field constraints v).events =
      .evaluating field constraints.length ::
        constraints.filterMap (Constraint.dueEvent? options field v) := by
  simp only [checkPresent, Logged.events_bind, Logged.events_collect, Constraint.events_check,
    List.filterMap_eq_flatMap_toList]
  rfl

theorem events_check (options : Options) (field : String) (constraints : Constraints)
    (v : Option Value) :
    (check options field constraints v).events = constraints.dueEvents options field v := by
  cases constraints with
  | nil => rfl
  | cons c rest =>
    have hcheck : check options field (c :: rest) v =
        match asked? (c :: rest) v with
        | none => checkMissing field (c :: rest)
        | some v => checkPresent options field (c :: rest) v := rfl
    rw [hcheck, dueEvents]
    cases asked? (c :: rest) v with
    | none => exact events_checkMissing field (c :: rest)
    | some v => exact events_checkPresent options field (c :: rest) v

end Constraints

/-! ### Checking a record -/

namespace Session

theorem events_checkFields {ρ : Type} [Record ρ] (record : ρ) (s : Session)
    (fields : List (String × Constraints)) :
    (s.checkFields record fields).events = fields.flatMap fun (name, constraints) =>
      constraints.dueEvents s.options name (Record.field? record name) := by
  induction fields generalizing s with
  | nil => rfl
  | cons field rest ih =>
    obtain ⟨name, constraints⟩ := field
    -- The rest is checked in the session that has the violations of the first field, of which
    -- the events read nothing but the options.
    have hoptions : (s.checkField name (Record.field? record name) constraints).value.options =
        s.options := by
      rw [value_checkField, options_addAll]
    have hfirst : (s.checkField name (Record.field? record name) constraints).events =
        constraints.dueEvents s.options name (Record.field? record name) := by
      rw [checkField, Logged.events_bind, Logged.events_pure, List.append_nil,
        Constraints.events_check]
    rw [checkFields, Logged.events_bind, hfirst, ih, hoptions, List.flatMap_cons]

theorem events_check {ρ : Type} [Record ρ] (s : Session) (schema : Schema) (record : ρ) :
    (s.check schema record).events =
      schema.dueEvents s.options record ++
        [.checkedRecord schema.size (s.check schema record).value.size] := by
  rw [check, Logged.events_bind, events_checkFields]
  rfl

end Session

end Fieldwise
