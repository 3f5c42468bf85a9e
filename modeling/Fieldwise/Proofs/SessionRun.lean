import Fieldwise.Proofs.Collecting
import Fieldwise.Proofs.Due
import Mathlib.Data.List.DropRight

/-!
# Runs of a session

A session is used by checks, by violations that are added directly, and by clearing it, in
any order. Each operation records violations that depend on its arguments and the options
alone. The invariant of a run is that the session is the fresh one with everything recorded
since the last clearing added in order; what the session shows is read off from there.
-/

namespace Fieldwise

universe u

theorem Logged.bind_congr {α β : Type u} (x : Logged α) (f g : α → Logged β)
    (h : f x.value = g x.value) : x >>= f = x >>= g := by
  simp only [bind, h]

/-! ### Operations -/

/-- What can be done to a session. -/
inductive Operation
  | check {ρ : Type} [Record ρ] (schema : Schema) (record : ρ)
  | checkAnnotated (fields : List RuledField)
  | checkField (field : String) (value : Option Value) (constraints : Constraints)
  | addError (field message : String)
  | add (v : Violation)
  | clear

namespace Operation

def isClear : Operation → Bool
  | clear => true
  | _ => false

/-- The operation answers whether the session is valid. -/
def isCheck : Operation → Bool
  | check _ _ | checkAnnotated _ => true
  | _ => false

/-- The violations that the operation records. -/
def recorded (o : Options) : Operation → List Violation
  | check schema record => schema.due o record
  | checkAnnotated fields => fields.flatMap (RuledField.due o)
  | checkField field value constraints => constraints.due o field value
  | addError field message => [⟨field, message, "validation_error"⟩]
  | add v => [v]
  | clear => []

/-- The violations recorded after the last clearing, in the order of the operations. -/
def sinceClear (o : Options) (ops : List Operation) : List Violation :=
  (ops.rtakeWhile fun op => !op.isClear).flatMap (recorded o)

theorem sinceClear_concat (o : Options) (ops : List Operation) (op : Operation) :
    sinceClear o (ops ++ [op]) =
      if op.isClear then [] else sinceClear o ops ++ op.recorded o := by
  unfold sinceClear
  rw [List.rtakeWhile_concat]
  cases hop : op.isClear with
  | true => rfl
  | false => simp

end Operation

namespace Session

/-! ### Steps and runs -/

/-- The session after an operation, and the answer of a check. -/
def step (s : Session) : Operation → Logged (Session × Option Bool)
  | @Operation.check _ _ schema record => do
    let s ← s.check schema record
    return (s, some s.isValid)
  | .checkAnnotated fields => do
    let s ← s.checkAnnotated fields
    return (s, some s.isValid)
  | .checkField field value constraints => do
    return (← s.checkField field value constraints, none)
  | .addError field message => pure (s.addError field message, none)
  | .add v => pure (s.add v, none)
  | .clear => pure (s.clear, none)

/-- The session after operations in order, and their answers. -/
def run (s : Session) : List Operation → Logged (Session × List (Option Bool))
  | [] => pure (s, [])
  | op :: rest => do
    let first ← s.step op
    let others ← first.1.run rest
    return (others.1, first.2 :: others.2)

/-- An operation adds what it records, or clears the session. -/
theorem step_session (s : Session) (op : Operation) :
    (s.step op).value.1 =
      if op.isClear then fresh s.options else s.addAll (op.recorded s.options) := by
  cases op with
  | check schema record => exact value_check s schema record
  | checkAnnotated fields => exact value_checkAnnotated s fields
  | checkField field value constraints =>
    have hcheck := s.value_checkField field value constraints
    rw [Constraints.value_check] at hcheck
    exact hcheck
  | addError field message => rfl
  | add v => rfl
  | clear => rfl

theorem step_answer (s : Session) (op : Operation) :
    (s.step op).value.2 = if op.isCheck then some (s.step op).value.1.isValid else none := by
  cases op with
  | check schema record => rfl
  | checkAnnotated fields => rfl
  | checkField field value constraints => rfl
  | addError field message => rfl
  | add v => rfl
  | clear => rfl

theorem run_append (s : Session) (before after : List Operation) :
    s.run (before ++ after) = do
      let first ← s.run before
      let others ← first.1.run after
      return (others.1, first.2 ++ others.2) := by
  induction before generalizing s with
  | nil =>
    simp only [List.nil_append, run, pure_bind]
    exact (bind_pure _).symm
  | cons op rest ih =>
    simp only [List.cons_append, run, ih, bind_assoc, pure_bind]

theorem run_clear (s : Session) (later : List Operation) :
    s.run (.clear :: later) = do
      let others ← (fresh s.options).run later
      return (others.1, none :: others.2) := by
  have hstep : s.step .clear = pure (fresh s.options, none) := rfl
  rw [run, hstep, pure_bind]

theorem run_concat (s : Session) (ops : List Operation) (op : Operation) :
    (s.run (ops ++ [op])).value.1 = ((s.run ops).value.1.step op).value.1 := by
  rw [run_append]
  rfl

/-- What holds along every run: the session is the fresh one with all that was recorded
since the last clearing added in order. -/
theorem run_session (o : Options) (ops : List Operation) :
    ((fresh o).run ops).value.1 = (fresh o).addAll (Operation.sinceClear o ops) := by
  -- What was recorded since the last clearing is read from the end of the run, so the
  -- induction takes the operations off there.
  induction ops using List.reverseRecOn with
  | nil => rfl
  | append_singleton ops op ih =>
    have hoptions : ((fresh o).addAll (Operation.sinceClear o ops)).options = o :=
      options_addAll (fresh o) _
    rw [run_concat, ih, step_session, Operation.sinceClear_concat, hoptions]
    cases op.isClear with
    | true => rfl
    | false => exact (addAll_append (fresh o) _ _).symm

/-! ### What a session shows -/

/-- The session holds these violations and nothing else: distinct fields, each with its own
violations and at least one, and read field by field, fields by first appearance. -/
structure Holds (s : Session) (o : Options) (vs : List Violation) : Prop where
  options : s.options = o
  distinct : s.buckets.keys.Nodup
  inhabited : ∀ bucket ∈ s.buckets.entries, bucket.2 ≠ []
  inPlace : ∀ bucket ∈ s.buckets.entries, ∀ v ∈ bucket.2, v.field = bucket.1
  grouped : s.violations = Grouping.regrouped Violation.field vs
  complete : s.violations.Perm vs
  counted : s.size = vs.length

theorem holds_addAll_fresh (o : Options) (vs : List Violation) :
    ((fresh o).addAll vs).Holds o vs where
  options := options_addAll (fresh o) vs
  distinct := ((fresh o).addAll vs).buckets.nodup_keys
  inhabited := by
    intro bucket hbucket
    rw [entries_addAll_fresh] at hbucket
    obtain ⟨name, hname, rfl⟩ := List.mem_map.mp hbucket
    exact Grouping.under_ne_nil Violation.field name vs hname
  inPlace := by
    intro bucket hbucket v hv
    rw [entries_addAll_fresh] at hbucket
    obtain ⟨name, _, rfl⟩ := List.mem_map.mp hbucket
    exact Grouping.key_of_mem_under Violation.field name vs v hv
  grouped := violations_addAll_fresh o vs
  complete := by
    rw [violations_addAll_fresh]
    exact Grouping.regrouped_perm Violation.field vs
  counted := size_addAll_fresh o vs

/-- Along every run the session holds exactly what was recorded since the last clearing; the
next operation adds its own violations whatever the session holds, or clears it; a check
answers whether nothing has been recorded since the last clearing; and after clearing, a run
is the run of a fresh session, with its answers and its events. -/
theorem run_aggregates (o : Options) (ops : List Operation) :
    ((fresh o).run ops).value.1.Holds o (Operation.sinceClear o ops) ∧
    (∀ op, (((fresh o).run ops).value.1.step op).value.1 =
      if op.isClear then fresh o else ((fresh o).run ops).value.1.addAll (op.recorded o)) ∧
    (∀ op, (((fresh o).run ops).value.1.step op).value.2 =
      if op.isCheck then some (Operation.sinceClear o (ops ++ [op])).isEmpty else none) ∧
    (∀ later, (fresh o).run (ops ++ .clear :: later) = do
      let first ← (fresh o).run ops
      let others ← (fresh o).run later
      return (others.1, first.2 ++ none :: others.2)) := by
  have hholds : ((fresh o).run ops).value.1.Holds o (Operation.sinceClear o ops) := by
    rw [run_session]
    exact holds_addAll_fresh o _
  refine ⟨hholds, ?_, ?_, ?_⟩
  · intro op
    rw [step_session, hholds.options]
  · intro op
    rw [step_answer, ← run_concat, run_session, isValid_addAll_fresh]
  · intro later
    rw [run_append]
    apply Logged.bind_congr
    rw [run_clear, hholds.options]
    simp only [bind_assoc, pure_bind]

end Session

end Fieldwise
