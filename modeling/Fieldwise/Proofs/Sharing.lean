import Fieldwise.Proofs.Declaring
import Fieldwise.Registry
import Mathlib.Logic.Function.Basic

/-!
# Shared registries

A client holds a handle on a registry: the place where it is stored. A clone is a handle on
the same place. Calls through all handles take place one at a time, in any order. The
invariant of a run is that a registry stores the registrations that succeeded at its place,
in the order in which they did, so a name keeps the schema of its first registration, and
every handle on the place finds it.
-/

namespace Fieldwise

/-! ### Calls -/

/-- What a registry can be asked. -/
inductive Call
  | register (name : String) (schema : Schema)
  | get (name : String)
  | validate {ρ : Type} [Record ρ] (name : String) (record : ρ)
  | names
  | size

/-- What a call answers. -/
inductive Answer
  | registered (outcome : Except RegistryError Unit)
  | found (schema : Option Schema)
  | validated (outcome : Except RegistryError ValidationResult)
  | listed (names : List String)
  | counted (n : Nat)

namespace Call

/-- The answer of a call after these registrations: a name that has been registered cannot be
registered again, and stands for the schema that it was registered with first. -/
def answer (done : List (String × Schema)) : Call → Answer
  | register name _ =>
    .registered (if name ∈ Entries.keys done then .error (.duplicateName name) else .ok ())
  | get name => .found (Entries.get? name done)
  | @validate _ _ name record =>
    match Entries.get? name done with
    | none => .validated (.error (.schemaNotFound name))
    | some schema => .validated (.ok (schema.validate record).value)
  | names => .listed (Entries.keys done)
  | size => .counted done.length

/-- The registration that a call adds to these. -/
def adds (done : List (String × Schema)) : Call → List (String × Schema)
  | register name schema => if name ∈ Entries.keys done then [] else [(name, schema)]
  | _ => []

end Call

namespace Registry

/-- The registry after a call, and the answer. -/
def call (r : Registry) : Call → Logged (Registry × Answer)
  | .register name schema =>
    match r.register name schema with
    | .error e => pure (r, .registered (.error e))
    | .ok next => do return (← next, .registered (.ok ()))
  | .get name => pure (r, .found (r.get? name))
  | @Call.validate _ _ name record =>
    match r.validate name record with
    | .error e => pure (r, .validated (.error e))
    | .ok result => do return (r, .validated (.ok (← result)))
  | .names => pure (r, .listed r.names)
  | .size => pure (r, .counted r.size)

theorem contains_eq_false_iff (r : Registry) (name : String) :
    r.schemas.contains name = false ↔ name ∉ Entries.keys r.schemas.entries := by
  rw [← Entries.get?_eq_none_iff, FieldMap.contains, Option.isSome_eq_false_iff,
    Option.isNone_iff_eq_none]
  rfl

theorem register_of_notMem (r : Registry) (name : String) (schema : Schema)
    (h : name ∉ Entries.keys r.schemas.entries) :
    ∃ next, r.register name schema = .ok next ∧
      next.value.schemas.entries = r.schemas.entries ++ [(name, schema)] := by
  have hfree := (r.contains_eq_false_iff name).mpr h
  simp only [register, hfree, Bool.false_eq_true, ↓reduceIte, Except.ok.injEq, exists_eq_left']
  exact Entries.alter_of_notMem name _ _ h

theorem register_of_mem (r : Registry) (name : String) (schema : Schema)
    (h : name ∈ Entries.keys r.schemas.entries) :
    r.register name schema = .error (.duplicateName name) := by
  have htaken : r.schemas.contains name = true := by
    rw [← Bool.not_eq_false, r.contains_eq_false_iff name]
    exact fun hne => hne h
  simp only [register, htaken, ↓reduceIte]

/-- A call answers from what is stored, and stores the registration that it adds. -/
theorem value_call (r : Registry) (c : Call) :
    (r.call c).value.2 = c.answer r.schemas.entries ∧
    (r.call c).value.1.schemas.entries = r.schemas.entries ++ c.adds r.schemas.entries := by
  cases c with
  | register name schema =>
    by_cases h : name ∈ Entries.keys r.schemas.entries
    · simp [call, register_of_mem r name schema h, Call.answer, Call.adds, h]
    · obtain ⟨next, hnext, hentries⟩ := r.register_of_notMem name schema h
      simp [call, hnext, Call.answer, Call.adds, h, hentries]
  | get name => exact ⟨rfl, (List.append_nil _).symm⟩
  | validate name record =>
    have hget : r.get? name = Entries.get? name r.schemas.entries := rfl
    simp only [call, validate, hget, Call.answer, Call.adds, List.append_nil]
    cases Entries.get? name r.schemas.entries with
    | none => exact ⟨rfl, rfl⟩
    | some schema => exact ⟨rfl, rfl⟩
  | names => exact ⟨rfl, (List.append_nil _).symm⟩
  | size => exact ⟨rfl, (List.append_nil _).symm⟩

theorem call_unchanged (r : Registry) (c : Call) (h : c.adds r.schemas.entries = []) :
    (r.call c).value.1 = r := by
  have hentries := (r.value_call c).2
  rw [h, List.append_nil] at hentries
  have hschemas := FieldMap.eq_of_entries hentries
  cases r
  exact congrArg Registry.mk hschemas

end Registry

/-! ### Clients -/

/-- The place of the handle of every client, and the registry at every place. -/
structure Sharing where
  place : Nat → Nat
  stored : Nat → Registry

/-- What a client does: its handle becomes a clone of another one, or it makes a call. -/
inductive Step
  | clone (source target : Nat)
  | call (client : Nat) (c : Call)

/-- A call that took place, where and with which answer. -/
structure Occurrence where
  place : Nat
  call : Call
  answer : Answer

/-- The registration that succeeded, if there was one. -/
def Occurrence.registration? (o : Occurrence) : Option (String × Schema) :=
  match o.call, o.answer with
  | .register name schema, .registered (.ok _) => some (name, schema)
  | _, _ => none

/-- The registrations that succeeded at a place, in order. -/
def registrations (place : Nat) (trace : List Occurrence) : List (String × Schema) :=
  (trace.filter fun o => o.place = place).filterMap Occurrence.registration?

theorem registrations_append (place : Nat) (trace later : List Occurrence) :
    registrations place (trace ++ later) =
      registrations place trace ++ registrations place later := by
  simp only [registrations, List.filter_append, List.filterMap_append]

theorem registrations_answered (place : Nat) (c : Call) (done : List (String × Schema)) :
    registrations place [⟨place, c, c.answer done⟩] = c.adds done := by
  cases c with
  | register name schema =>
    by_cases h : name ∈ Entries.keys done
    · simp [registrations, Occurrence.registration?, Call.answer, Call.adds, h]
    · simp [registrations, Occurrence.registration?, Call.answer, Call.adds, h]
  | _ => simp [registrations, Occurrence.registration?, Call.adds]

namespace Sharing

/-- Every client has a registry of its own, and nothing is registered. -/
def start : Sharing := ⟨id, fun _ => ∅⟩

/-- The answer of a call that a client makes. -/
def answer (w : Sharing) (client : Nat) (c : Call) : Answer :=
  ((w.stored (w.place client)).call c).value.2

/-- The handles and registries after a step. -/
def step (w : Sharing) : Step → Logged Sharing
  | .clone source target => pure ⟨Function.update w.place target (w.place source), w.stored⟩
  | .call client c => do
    let (r, _) ← (w.stored (w.place client)).call c
    return ⟨w.place, Function.update w.stored (w.place client) r⟩

/-- The calls of a step. -/
def occurred (w : Sharing) : Step → List Occurrence
  | .clone _ _ => []
  | .call client c => [⟨w.place client, c, w.answer client c⟩]

/-- The handles and registries after the steps, and the calls that took place. -/
def run (steps : List Step) : Sharing × List Occurrence :=
  steps.foldl (fun (w, trace) s => ((w.step s).value, trace ++ w.occurred s)) (start, [])

theorem run_concat (steps : List Step) (s : Step) :
    run (steps ++ [s]) =
      (((run steps).1.step s).value, (run steps).2 ++ (run steps).1.occurred s) := by
  rw [run, List.foldl_append]
  rfl

/-- What holds along every run: a registry stores the registrations that succeeded at its
place, in order. -/
theorem stored_run (steps : List Step) (place : Nat) :
    ((run steps).1.stored place).schemas.entries = registrations place (run steps).2 := by
  induction steps using List.reverseRecOn with
  | nil => rfl
  | append_singleton steps s ih =>
    rw [run_concat, registrations_append]
    cases s with
    | clone source target => simpa [step, occurred, registrations] using ih
    | call client c =>
      have hcall := ((run steps).1.stored ((run steps).1.place client)).value_call c
      by_cases h : (run steps).1.place client = place
      · rw [h, ih] at hcall
        have hoccurred : (run steps).1.occurred (.call client c) =
            [⟨place, c, c.answer (registrations place (run steps).2)⟩] := by
          rw [occurred, answer, h, hcall.1]
        rw [hoccurred, registrations_answered, ← hcall.2, ← h]
        simp [step]
      · have hother : registrations place ((run steps).1.occurred (.call client c)) = [] := by
          simp [occurred, registrations, h]
        rw [hother, List.append_nil, ← ih]
        simp [step, Function.update_of_ne (Ne.symm h)]

/-! ### What a client finds -/

/-- The registrations that succeeded, through whatever handle, where a client's handle is. -/
def registered (steps : List Step) (client : Nat) : List (String × Schema) :=
  registrations ((run steps).1.place client) (run steps).2

theorem nodup_registered (steps : List Step) (client : Nat) :
    (Entries.keys (registered steps client)).Nodup := by
  rw [registered, ← stored_run]
  exact FieldMap.nodup_keys _

theorem answer_run (steps : List Step) (client : Nat) (c : Call) :
    (run steps).1.answer client c = c.answer (registered steps client) := by
  rw [registered, ← stored_run]
  exact (Registry.value_call _ c).1

theorem registered_call (steps : List Step) (client : Nat) (c : Call) :
    registered (steps ++ [.call client c]) client =
      registered steps client ++ c.adds (registered steps client) := by
  have hanswer := answer_run steps client c
  rw [registered, run_concat, registrations_append, occurred, hanswer]
  exact congrArg (registered steps client ++ ·) (registrations_answered _ c _)

theorem step_unchanged (steps : List Step) (client : Nat) (c : Call)
    (h : c.adds (registered steps client) = []) :
    ((run steps).1.step (.call client c)).value = (run steps).1 := by
  have hcall : (((run steps).1.stored ((run steps).1.place client)).call c).value.1 =
      (run steps).1.stored ((run steps).1.place client) := by
    apply Registry.call_unchanged
    rw [stored_run]
    exact h
  simp [step, hcall]

theorem trace_run_append (steps later : List Step) :
    (run steps).2 <+: (run (steps ++ later)).2 := by
  induction later using List.reverseRecOn with
  | nil => simp only [List.append_nil, List.prefix_rfl]
  | append_singleton later s ih =>
    rw [← List.append_assoc, run_concat]
    exact ih.trans (List.prefix_append ..)

theorem registered_append (steps later : List Step) (client other : Nat)
    (h : (run (steps ++ later)).1.place other = (run steps).1.place client) :
    registered steps client <+: registered (steps ++ later) other := by
  obtain ⟨more, hmore⟩ := trace_run_append steps later
  rw [registered, registered, h, ← hmore, registrations_append]
  exact List.prefix_append ..

/-- After all that any clients did, in any order: what succeeded where a client's handle is has
distinct names, in order of success, and decides every answer that the client gets; a call
changes nothing, unless it registers a name that is free, and then adds it; a clone answers as
its source does; and what was registered once is found from then on, through every handle on
the place. -/
theorem first_registration_stays (steps : List Step) :
    (∀ client, (Entries.keys (registered steps client)).Nodup) ∧
    (∀ client c, (run steps).1.answer client c = c.answer (registered steps client)) ∧
    (∀ client c, registered (steps ++ [.call client c]) client =
      registered steps client ++ c.adds (registered steps client)) ∧
    (∀ client c, (run (steps ++ [.call client c])).1 = (run steps).1 ∨
      ∃ name schema, c = .register name schema ∧
        name ∉ Entries.keys (registered steps client)) ∧
    (∀ source target, registered (steps ++ [.clone source target]) target =
        registered steps source ∧
      (run (steps ++ [.clone source target])).1.place target = (run steps).1.place source ∧
      (run (steps ++ [.clone source target])).1.stored = (run steps).1.stored) ∧
    (∀ client name schema, (name, schema) ∈ registered steps client → ∀ later other,
      (run (steps ++ later)).1.place other = (run steps).1.place client →
      (run (steps ++ later)).1.answer other (.get name) = .found (some schema)) := by
  refine ⟨nodup_registered steps, answer_run steps, registered_call steps, ?_, ?_, ?_⟩
  · intro client c
    rw [run_concat]
    cases c with
    | register name schema =>
      by_cases h : name ∈ Entries.keys (registered steps client)
      · exact Or.inl (step_unchanged steps client _ (by simp [Call.adds, h]))
      · exact Or.inr ⟨name, schema, rfl, h⟩
    | _ => exact Or.inl (step_unchanged steps client _ rfl)
  · intro source target
    have hplace : (run (steps ++ [.clone source target])).1.place target =
        (run steps).1.place source := by
      rw [run_concat]
      exact Function.update_self ..
    refine ⟨?_, hplace, ?_⟩
    · rw [registered, hplace, run_concat]
      simp [occurred, registered]
    · rw [run_concat]
      rfl
  · intro client name schema hmem later other hplace
    have hlater := (registered_append steps later client other hplace).subset hmem
    rw [answer_run, Call.answer, Entries.get?_of_mem (nodup_registered _ other) hlater]

/-- A second registration through a clone fails, and a later clone finds the first schema. -/
theorem clone_finds_first_registration :
    ∃ (schema : Schema) (steps later : List Step),
      schema = (∅ : Schema).declare "name" [⟨.required, none⟩] ∧
      steps = [.clone 0 1, .call 0 (.register "User" schema), .call 1 (.register "User" ∅)] ∧
      later = [.clone 1 2, .call 1 (.register "Order" ∅)] ∧
      (run steps).2.map Occurrence.answer =
        [.registered (.ok ()), .registered (.error (.duplicateName "User"))] ∧
      ("User", schema) ∈ registered steps 0 ∧
      (run (steps ++ later)).1.place 2 = (run steps).1.place 0 ∧
      (run (steps ++ later)).1.answer 2 (.get "User") = .found (some schema) := by
  have hmem : ("User", (∅ : Schema).declare "name" [⟨.required, none⟩]) ∈ registered [.clone 0 1,
      .call 0 (.register "User" ((∅ : Schema).declare "name" [⟨.required, none⟩])),
      .call 1 (.register "User" ∅)] 0 := List.mem_cons_self ..
  refine ⟨_, _, _, rfl, rfl, rfl, rfl, hmem, rfl, ?_⟩
  exact (first_registration_stays _).2.2.2.2.2 0 _ _ hmem _ 2 rfl

end Sharing

end Fieldwise
