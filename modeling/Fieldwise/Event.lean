import Fieldwise.RuleText.Error
import Fieldwise.Value.Coercion

/-!
# Events

What a run reports beside its result: a rule that was dropped, a bound that was
skipped, a record that was checked. A computation that reports events is `Logged`:
its value, with the events in order.
-/

namespace Fieldwise

/-! ### Events -/

/-- How important an event is. -/
inductive Level
  | trace
  | debug
deriving DecidableEq, Repr

def Level.toText : Level → String
  | trace => "TRACE"
  | debug => "DEBUG"

/-- Something that happened. -/
inductive Event
  | ruleDropped (rules : String) (error : RuleError)
  | requiredMissing (field : String)
  | evaluating (field : String) (constraints : Nat)
  | coercionFailed (error : CoercionError)
  | boundSkipped (field rule got : String)
  | checkedRecord (fields violations : Nat)
  | checkedAnnotated (fields violations : Nat)
  | registered (schema : String) (fields : Nat)
deriving DecidableEq

namespace Event

def level : Event → Level
  | requiredMissing _ | evaluating _ _ | coercionFailed _ | boundSkipped _ _ _ => .trace
  | ruleDropped _ _ | checkedRecord _ _ | checkedAnnotated _ _ | registered _ _ => .debug

def message : Event → String
  | ruleDropped _ _ => "dropping rule token"
  | requiredMissing _ => "required value missing"
  | evaluating _ _ => "evaluating field"
  | coercionFailed _ => "timestamp coercion failed"
  | boundSkipped _ _ _ => "numeric bound not applicable"
  | checkedRecord _ _ => "checked record"
  | checkedAnnotated _ _ => "checked annotated record"
  | registered _ _ => "registered schema"

def countText (n : Nat) : String := String.ofList (Number.natural n)

/-- What the event is about, by name. -/
def fields : Event → List (String × String)
  | ruleDropped rules error => [("rules", rules), ("error", error.message)]
  | requiredMissing field => [("field", field)]
  | evaluating field constraints => [("field", field), ("constraints", countText constraints)]
  | coercionFailed error => [("error", error.message)]
  | boundSkipped field rule got => [("field", field), ("rule", rule), ("got", got)]
  | checkedRecord fields violations | checkedAnnotated fields violations =>
    [("fields", countText fields), ("violations", countText violations)]
  | registered schema fields => [("schema", schema), ("fields", countText fields)]

end Event

/-! ### Computations with events -/

/-- A value, and the events reported on the way to it. -/
structure Logged (α : Type u) where
  value : α
  events : List Event

namespace Logged

/-- One event, and nothing else. -/
def report (event : Event) : Logged Unit := ⟨(), [event]⟩

instance : Monad Logged where
  pure a := ⟨a, []⟩
  bind x f :=
    let y := f x.value
    ⟨y.value, x.events ++ y.events⟩

instance : LawfulMonad Logged := LawfulMonad.mk' Logged
  (fun x => by cases x; simp [Functor.map])
  (fun x f => by simp [bind, pure])
  (fun x f g => by simp [bind, List.append_assoc])

/-- The results of all items, the events in the order of the items. -/
def collect {α β : Type} (f : α → Logged (List β)) : List α → Logged (List β)
  | [] => pure []
  | a :: rest => do
    let first ← f a
    let others ← collect f rest
    return first ++ others

@[simp] theorem value_pure {α : Type} (a : α) : (pure a : Logged α).value = a := rfl

@[simp] theorem events_pure {α : Type} (a : α) : (pure a : Logged α).events = [] := rfl

@[simp] theorem value_bind {α β : Type} (x : Logged α) (f : α → Logged β) :
    (x >>= f).value = (f x.value).value := rfl

@[simp] theorem events_bind {α β : Type} (x : Logged α) (f : α → Logged β) :
    (x >>= f).events = x.events ++ (f x.value).events := rfl

@[simp] theorem value_map {α β : Type} (f : α → β) (x : Logged α) :
    (f <$> x).value = f x.value := rfl

@[simp] theorem events_map {α β : Type} (f : α → β) (x : Logged α) :
    (f <$> x).events = x.events := List.append_nil _

theorem value_collect {α β : Type} (f : α → Logged (List β)) (l : List α) :
    (collect f l).value = l.flatMap fun a => (f a).value := by
  induction l with
  | nil => rfl
  | cons a rest ih => simp [collect, ih]

theorem events_collect {α β : Type} (f : α → Logged (List β)) (l : List α) :
    (collect f l).events = l.flatMap fun a => (f a).events := by
  induction l with
  | nil => rfl
  | cons a rest ih => simp [collect, ih]

end Logged

end Fieldwise
