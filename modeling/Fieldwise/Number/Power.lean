/-!
# Powers of two and ten

The scales of binary and decimal numbers. The laws are those of exponents, and they
are all that is needed to move between scales.
-/

namespace Fieldwise.Number

def twoPow (n : Nat) : Nat := Nat.pow 2 n

def tenPow (n : Nat) : Nat := Nat.pow 10 n

theorem twoPow_zero : twoPow 0 = 1 := rfl

theorem twoPow_succ (n : Nat) : twoPow (n + 1) = twoPow n * 2 := rfl

theorem twoPow_pos (n : Nat) : 0 < twoPow n := by
  induction n with
  | zero => exact Nat.one_pos
  | succ n ih => rw [twoPow_succ]; omega

theorem twoPow_add (m n : Nat) : twoPow (m + n) = twoPow m * twoPow n := by
  induction n with
  | zero => rw [Nat.add_zero, twoPow_zero, Nat.mul_one]
  | succ n ih => rw [← Nat.add_assoc, twoPow_succ, twoPow_succ, ih, Nat.mul_assoc]

theorem twoPow_le (m n : Nat) (h : m ≤ n) : twoPow m ≤ twoPow n :=
  Nat.pow_le_pow_right (by decide) h

theorem tenPow_zero : tenPow 0 = 1 := rfl

theorem tenPow_succ (n : Nat) : tenPow (n + 1) = tenPow n * 10 := rfl

theorem tenPow_pos (n : Nat) : 0 < tenPow n := by
  induction n with
  | zero => exact Nat.one_pos
  | succ n ih => rw [tenPow_succ]; omega

theorem tenPow_add (m n : Nat) : tenPow (m + n) = tenPow m * tenPow n := by
  induction n with
  | zero => rw [Nat.add_zero, tenPow_zero, Nat.mul_one]
  | succ n ih => rw [← Nat.add_assoc, tenPow_succ, tenPow_succ, ih, Nat.mul_assoc]

theorem tenPow_le (m n : Nat) (h : m ≤ n) : tenPow m ≤ tenPow n :=
  Nat.pow_le_pow_right (by decide) h

end Fieldwise.Number
