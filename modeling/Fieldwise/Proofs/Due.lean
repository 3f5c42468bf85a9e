import Fieldwise.Session
import Mathlib.Data.List.Basic

/-!
# The violations that are due

What a check should say about a record, said by the meaning of the rules alone: which rules
a value keeps, which violation a constraint owes for a value that breaks it, and which
constraints of a field are asked at all. Checking a constraint, a field and a record finds
what is due, whatever the events on the way.
-/

namespace Fieldwise

/-! ### Rules and values -/

namespace Rule

/-- The value keeps the rule. Bounds speak of the integer form, formats of the text form
and bounds in time of timestamps; of a value without that form nothing is asked. A value
that is there keeps `required`. -/
def Holds (v : Value) : Rule → Prop
  | .required => True
  | .min bound => ∀ n ∈ v.toInteger, bound ≤ n
  | .max bound => ∀ n ∈ v.toInteger, n ≤ bound
  | .minLength least => least.toNat ≤ v.chars.length
  | .maxLength most => v.chars.length ≤ most.toNat
  | .email => Format.isEmail v.chars
  | .url => Format.isUrl v.chars
  | .alpha => Format.isAlpha v.chars
  | .alphanumeric => Format.isAlphanumeric v.chars
  | .numeric => Format.isNumeric v.chars
  | .uuid => Format.isUuid v.chars
  | .ip => Format.isIpv4 v.chars ∨ Format.isIpv6 v.chars
  | .ipv4 => Format.isIpv4 v.chars
  | .ipv6 => Format.isIpv6 v.chars
  | .pattern p _ => p.isMatch v.chars
  | .oneOf options => v.toText ∈ options
  | .notOneOf options => v.toText ∉ options
  | .equal expected => Format.isEqual v.chars expected.toList
  | .notEqual expected => ¬Format.isEqual v.chars expected.toList
  | .timeFormat layout => (v.toTimestamp layout).isOk
  | .after boundary => ∀ t ∈ v.asTimestamp, t.isAfter boundary
  | .before boundary => ∀ t ∈ v.asTimestamp, t.isBefore boundary
  | .custom check => check v = none

instance (v : Value) (rule : Rule) : Decidable (rule.Holds v) := by
  cases rule with
  -- A search could also find the instance that tries every 64-bit number.
  | min bound => exact Option.decidableForallMem (p := fun n => bound ≤ n) v.toInteger
  | max bound => exact Option.decidableForallMem (p := fun n => n ≤ bound) v.toInteger
  | _ =>
    unfold Holds
    infer_instance

/-- A numeric bound, asked of a value that has no integer form. -/
def IsMismatch (v : Value) : Rule → Prop
  | .min _ | .max _ => v.toInteger = none
  | _ => False

instance (v : Value) (rule : Rule) : Decidable (rule.IsMismatch v) := by
  cases rule <;> unfold IsMismatch <;> infer_instance

/-- The words for a value that breaks the rule: a custom rule finds its own, any other has
its usual message. -/
def words (v : Value) : Rule → String
  | .custom check => (check v).getD (template (.custom check))
  | rule => rule.template

end Rule

/-! ### What is due -/

/-- The violation that a constraint owes for a value that is there and not empty. -/
def Constraint.due? (options : Options) (field : String) (v : Value) (c : Constraint) :
    Option Violation :=
  if c.rule.IsMismatch v then
    match options.mismatch with
    | .skip => none
    | .report => some ⟨field, "Must be a number", "type_mismatch"⟩
  else if c.rule.Holds v then none
  else some ⟨field, c.override.getD (c.rule.words v), c.code⟩

namespace Constraints

/-- The violation due on a field without a value: that of the first constraint that asks
for one, if there is one. -/
def dueMissing (field : String) (constraints : Constraints) : List Violation :=
  match constraints.filter Constraint.isRequired with
  | [] => []
  | c :: _ => [⟨field, c.message, "required"⟩]

/-- The violations due on a field. -/
def due (options : Options) (field : String) : Constraints → Option Value → List Violation
  | [], _ => []
  | constraints, none => dueMissing field constraints
  | constraints, some v =>
    if v.isEmpty then dueMissing field constraints
    else constraints.filterMap (Constraint.due? options field v)

end Constraints

/-- The violations due on a record: those of every field of the schema, in order. -/
def Schema.due {ρ : Type} [Record ρ] (schema : Schema) (options : Options) (record : ρ) :
    List Violation :=
  schema.fields.entries.flatMap fun (name, constraints) =>
    constraints.due options name (Record.field? record name)

def RuledField.due (options : Options) (a : RuledField) : List Violation :=
  (RuleText.parse a.rules).value.due options a.externalName (some a.value)

/-! ### Checking a constraint -/

namespace Rule

theorem template_eq_words (v : Value) (rule : Rule) (h : ∀ check, rule ≠ .custom check) :
    rule.template = rule.words v := by
  cases rule with
  | custom check => exact absurd rfl (h check)
  | _ => rfl

theorem isOneOf_iff (v : Value) (options : List String) :
    Format.isOneOf v.chars options = true ↔ v.toText ∈ options := by
  simp only [Format.isOneOf, List.any_eq_true, beq_iff_eq, Value.toText]
  constructor
  · rintro ⟨option, hmem, heq⟩
    rw [← heq, String.ofList_toList]
    exact hmem
  · intro hmem
    exact ⟨_, hmem, String.toList_ofList⟩

/-- What a finding says about a rule and a value. -/
def Explains (v : Value) (rule : Rule) : Finding → Prop
  | .passed => ¬rule.IsMismatch v ∧ rule.Holds v
  | .failed | .unreadable _ => ¬rule.IsMismatch v ∧ ¬rule.Holds v ∧ rule.template = rule.words v
  | .described description => ¬rule.IsMismatch v ∧ ¬rule.Holds v ∧ description = rule.words v
  | .notNumeric => rule.IsMismatch v

theorem explains_ofTest (v : Value) (rule : Rule) (holds : Bool) (hm : ¬rule.IsMismatch v)
    (hw : ∀ check, rule ≠ .custom check) (h : holds = true ↔ rule.Holds v) :
    rule.Explains v (.ofTest holds) := by
  unfold Finding.ofTest
  split
  · rename_i hpass
    exact ⟨hm, h.mp hpass⟩
  · rename_i hfail
    exact ⟨hm, fun hv => hfail (h.mpr hv), template_eq_words v rule hw⟩

/-- What a rule finds is what the meaning of the rule says. -/
theorem explains_find (v : Value) (rule : Rule) : rule.Explains v (rule.find v) := by
  cases rule with
  | min bound =>
    cases h : v.toInteger with
    | none => simp only [find, Finding.ofBound, h, Explains, IsMismatch]
    | some n =>
      simp only [find, Finding.ofBound, h]
      apply explains_ofTest
      · simp [IsMismatch, h]
      · simp
      · simp [Holds, h, Format.atLeast]
  | max bound =>
    cases h : v.toInteger with
    | none => simp only [find, Finding.ofBound, h, Explains, IsMismatch]
    | some n =>
      simp only [find, Finding.ofBound, h]
      apply explains_ofTest
      · simp [IsMismatch, h]
      · simp
      · simp [Holds, h, Format.atMost]
  | timeFormat layout =>
    cases h : v.toTimestamp layout with
    | ok t => simp [find, h, Explains, IsMismatch, Holds, Except.isOk, Except.toBool]
    | error e =>
      simp only [find, h, Explains, IsMismatch, Holds, Except.isOk, Except.toBool]
      exact ⟨not_false, Bool.false_ne_true, template_eq_words v _ (by simp)⟩
  | custom check =>
    cases h : check v with
    | none => simp [find, h, Explains, IsMismatch, Holds]
    | some description => simp [find, h, Explains, IsMismatch, Holds, words]
  | required => exact ⟨not_false, trivial⟩
  | minLength least =>
    exact explains_ofTest v _ _ not_false (by simp) (by simp [Holds, Format.hasMinChars])
  | maxLength most =>
    exact explains_ofTest v _ _ not_false (by simp) (by simp [Holds, Format.hasMaxChars])
  | ip => exact explains_ofTest v _ _ not_false (by simp) (by simp [Holds, Format.isIp])
  | oneOf options => exact explains_ofTest v _ _ not_false (by simp) (isOneOf_iff v options)
  | notOneOf options =>
    apply explains_ofTest
    · exact not_false
    · simp
    · rw [Holds, ← isOneOf_iff]
      simp [Format.isNotOneOf]
  | notEqual expected => exact explains_ofTest v _ _ not_false (by simp) (by simp [Holds])
  | after boundary => exact explains_ofTest v _ _ not_false (by simp) (Option.all_eq_true ..)
  | before boundary => exact explains_ofTest v _ _ not_false (by simp) (Option.all_eq_true ..)
  | _ => exact explains_ofTest v _ _ not_false (by simp) Iff.rfl

end Rule

theorem Constraint.value_check (options : Options) (field : String) (v : Value) (c : Constraint) :
    (c.check options field v).value = (c.due? options field v).toList := by
  have hfind := c.rule.explains_find v
  unfold Constraint.check Constraint.due?
  cases hf : c.rule.find v with
  | passed =>
    rw [hf] at hfind
    simp only [hfind.1, hfind.2, ↓reduceIte]
    rfl
  | failed =>
    rw [hf] at hfind
    obtain ⟨hm, hv, hw⟩ := hfind
    simp only [hm, hv, ↓reduceIte, ← hw]
    rfl
  | described description =>
    rw [hf] at hfind
    obtain ⟨hm, hv, hw⟩ := hfind
    simp only [hm, hv, ↓reduceIte, ← hw]
    rfl
  | unreadable e =>
    rw [hf] at hfind
    obtain ⟨hm, hv, hw⟩ := hfind
    simp only [hm, hv, ↓reduceIte, ← hw]
    rfl
  | notNumeric =>
    rw [hf] at hfind
    have hm : c.rule.IsMismatch v := hfind
    simp only [hm, ↓reduceIte]
    cases options.mismatch with
    | skip => rfl
    | report => rfl

/-! ### Checking a field -/

namespace Constraints

theorem code_of_isRequired (c : Constraint) (h : c.isRequired = true) : c.code = "required" := by
  unfold Constraint.isRequired at h
  split at h
  · rename_i hrule
    rw [Constraint.code, hrule, Rule.code]
  · cases h

theorem value_checkMissing (field : String) (constraints : Constraints) :
    (checkMissing field constraints).value = dueMissing field constraints := by
  unfold checkMissing dueMissing required?
  rw [← List.head?_filter]
  cases hreq : constraints.filter Constraint.isRequired with
  | nil => rfl
  | cons c rest =>
    -- The code is that of the rule found, which can only be `required`.
    have hc : c ∈ constraints.filter Constraint.isRequired := hreq ▸ List.mem_cons_self ..
    have hcode := code_of_isRequired c (List.mem_filter.mp hc).2
    simp only [List.head?_cons, Logged.value_bind, Logged.value_pure, Constraint.violation, hcode]

theorem value_checkPresent (options : Options) (field : String) (constraints : Constraints)
    (v : Value) :
    (checkPresent options field constraints v).value =
      constraints.filterMap (Constraint.due? options field v) := by
  simp only [checkPresent, Logged.value_bind, Logged.value_collect, Constraint.value_check,
    List.filterMap_eq_flatMap_toList]

theorem value_check (options : Options) (field : String) (constraints : Constraints)
    (v : Option Value) :
    (check options field constraints v).value = constraints.due options field v := by
  cases constraints with
  | nil => rfl
  | cons c rest =>
    cases v with
    | none => exact value_checkMissing field (c :: rest)
    | some v =>
      by_cases hempty : v.isEmpty = true
      · simp only [check, due, List.isEmpty_cons, Bool.false_eq_true, ↓reduceIte, Option.filter,
          hempty, Bool.not_true, value_checkMissing]
      · simp only [check, due, List.isEmpty_cons, Bool.false_eq_true, ↓reduceIte, Option.filter,
          hempty, Bool.not_false, value_checkPresent]

theorem due_alone (options : Options) (field : String) (c : Constraint) (v : Value)
    (hfilled : v.isEmpty = false) :
    due options field [c] (some v) = (c.due? options field v).toList := by
  simp only [due, hfilled, Bool.false_eq_true, ↓reduceIte, List.filterMap_eq_flatMap_toList,
    List.flatMap_singleton]

/-- A rule that applies to the value, asked alone. -/
theorem value_check_alone (options : Options) (field : String) (rule : Rule)
    (override : Option String) (v : Value) (hfilled : v.isEmpty = false)
    (hrule : ¬rule.IsMismatch v) :
    (check options field [⟨rule, override⟩] (some v)).value =
      if rule.Holds v then [] else [⟨field, override.getD (rule.words v), rule.code⟩] := by
  rw [value_check, due_alone options field _ v hfilled, Constraint.due?, if_neg hrule]
  split
  · rfl
  · rfl

/-- Each constraint is asked about a value that is there and not empty, whatever the others are. -/
theorem value_check_filled (options : Options) (field : String) (constraints : Constraints)
    {v : Value} (hfilled : v.isEmpty = false) :
    (check options field constraints (some v)).value =
      constraints.flatMap fun c => (check options field [c] (some v)).value := by
  simp only [value_check, due_alone options field _ v hfilled,
    ← List.filterMap_eq_flatMap_toList]
  cases constraints with
  | nil => rfl
  | cons c rest => simp only [due, hfilled, Bool.false_eq_true, ↓reduceIte]

/-- A bound that does not apply to the value, asked alone. -/
theorem value_check_mismatch (options : Options) (field : String) (rule : Rule)
    (override : Option String) (v : Value) (hfilled : v.isEmpty = false)
    (hrule : rule.IsMismatch v) :
    (check options field [⟨rule, override⟩] (some v)).value =
      if options.mismatch = .report then [⟨field, "Must be a number", "type_mismatch"⟩] else [] := by
  rw [value_check, due_alone options field _ v hfilled, Constraint.due?, if_pos hrule]
  cases options.mismatch with
  | skip => rfl
  | report => rfl

example :
    (check ⟨.report⟩ "age" [⟨.required, none⟩, ⟨.min 18, none⟩, ⟨.maxLength 2, some "too long"⟩]
      (some (.text "x1y"))).value =
      [⟨"age", "Must be a number", "type_mismatch"⟩, ⟨"age", "too long", "max_len"⟩] := by
  decide

theorem field_of_mem_due (options : Options) (field : String) (constraints : Constraints)
    (v : Option Value) (violation : Violation)
    (h : violation ∈ constraints.due options field v) : violation.field = field := by
  have hmissing : ∀ cs : Constraints, violation ∈ dueMissing field cs →
      violation.field = field := by
    intro cs hm
    unfold dueMissing at hm
    split at hm
    · cases hm
    · rw [List.mem_singleton.mp hm]
  unfold due at h
  split at h
  · cases h
  · exact hmissing _ h
  · split at h
    · exact hmissing _ h
    · obtain ⟨c, _, hc⟩ := List.mem_filterMap.mp h
      unfold Constraint.due? at hc
      grind

end Constraints

/-! ### Checking a record -/

namespace Session

theorem value_checkFields {ρ : Type} [Record ρ] (record : ρ) (s : Session)
    (fields : List (String × Constraints)) :
    (s.checkFields record fields).value = s.addAll (fields.flatMap fun (name, constraints) =>
      constraints.due s.options name (Record.field? record name)) := by
  induction fields generalizing s with
  | nil => rfl
  | cons field rest ih =>
    obtain ⟨name, constraints⟩ := field
    simp only [checkFields, Logged.value_bind, value_checkField, Constraints.value_check, ih,
      List.flatMap_cons, addAll_append, options_addAll]

theorem value_check {ρ : Type} [Record ρ] (s : Session) (schema : Schema) (record : ρ) :
    (s.check schema record).value = s.addAll (schema.due s.options record) := by
  simp only [check, Logged.value_bind, Logged.value_pure, value_checkFields, Schema.due]

theorem value_checkRuledFields (s : Session) (fields : List RuledField) :
    (s.checkRuledFields fields).value =
      s.addAll (fields.flatMap fun a => a.due s.options) := by
  induction fields generalizing s with
  | nil => rfl
  | cons a rest ih =>
    simp only [checkRuledFields, Logged.value_bind, value_checkField, Constraints.value_check, ih,
      List.flatMap_cons, addAll_append, options_addAll, RuledField.due]

theorem value_checkAnnotated (s : Session) (fields : List RuledField) :
    (s.checkAnnotated fields).value = s.addAll (fields.flatMap fun a => a.due s.options) := by
  simp only [checkAnnotated, Logged.value_bind, Logged.value_pure, value_checkRuledFields]

end Session

end Fieldwise
