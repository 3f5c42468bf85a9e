/-!
# Outcomes of computations that can fail

A computation that goes well went well at every step. One that never fails in some way at any step
never fails so.
-/

namespace Fieldwise

/-! ### Success -/

theorem exists_of_bind_eq_ok {ε α β : Type} (x : Except ε α) (f : α → Except ε β) (b : β)
    (h : x >>= f = .ok b) : ∃ a, x = .ok a ∧ f a = .ok b := by
  cases x with
  | error e => cases h
  | ok a => exact ⟨a, rfl, h⟩

theorem exists_of_map_eq_ok {ε α β : Type} (f : α → β) (x : Except ε α) (b : β)
    (h : x.map f = .ok b) : ∃ a, x = .ok a ∧ f a = b := by
  cases x with
  | error e => cases h
  | ok a => exact ⟨a, rfl, Except.ok.inj h⟩

/-! ### Failure -/

/-- The computation does not fail with this error. -/
def Avoids {ε α : Type} (e : ε) (x : Except ε α) : Prop := x ≠ .error e

namespace Avoids

variable {ε α β : Type} {e : ε} {x y : Except ε α}

theorem ok (a : α) : Avoids e (.ok a) := fun h => by cases h

theorem error {other : ε} (hne : other ≠ e) : Avoids e (.error other : Except ε α) :=
  fun h => hne (Except.error.inj h)

theorem bind {f : α → Except ε β} (hx : Avoids e x) (hf : ∀ a, Avoids e (f a)) :
    Avoids e (x >>= f) := by
  cases x with
  | ok a => exact hf a
  | error other => exact error fun heq => hx (heq ▸ rfl)

theorem map {f : α → β} (hx : Avoids e x) : Avoids e (x.map f) := by
  cases x with
  | ok a => exact ok (f a)
  | error other => exact error fun heq => hx (heq ▸ rfl)

theorem ite {p : Prop} [Decidable p] (hx : Avoids e x) (hy : Avoids e y) :
    Avoids e (if p then x else y) := by
  split
  · exact hx
  · exact hy

end Avoids

end Fieldwise
