import Fieldwise.Proofs.Number.Written
import Mathlib.Algebra.Order.Field.Rat
import Mathlib.Algebra.Order.Group.Abs
import Mathlib.Tactic.Linarith
import Mathlib.Tactic.Positivity

/-!
# The nearest double

A finite double stands for a rational number. The double nearest to a number is the finite one at
the least distance, and of two at the same distance the one with the even significand; a number
half a unit or more beyond the greatest finite double is nearest to an infinity. A number
has one nearest double, up to the sign of zero.
-/

namespace Fieldwise.Number

/-! ### Powers of two as rational numbers -/

theorem twoPow_pos_rat (n : Nat) : (0 : ℚ) < twoPow n := Nat.cast_pos.mpr (twoPow_pos n)

theorem twoPow_add_rat (m n : Nat) : (twoPow (m + n) : ℚ) = twoPow m * twoPow n := by
  rw [twoPow_add, Nat.cast_mul]

theorem twoPow_succ_rat (n : Nat) : (twoPow (n + 1) : ℚ) = twoPow n * 2 := by
  rw [twoPow_succ, Nat.cast_mul, Nat.cast_ofNat]

theorem twoPow_le_rat (m n : Nat) (h : m ≤ n) : (twoPow m : ℚ) ≤ twoPow n :=
  Nat.cast_le.mpr (twoPow_le m n h)

/-! ### Values -/

/-- The number that a finite double stands for. -/
def Finite.value (x : Finite) : ℚ := signed x.negative (x.units / twoPow 1074)

theorem abs_signed (negative : Bool) (q : ℚ) : |signed negative q| = |q| := by
  cases negative with
  | false => rfl
  | true => exact abs_neg q

theorem signed_sub (negative : Bool) (q p : ℚ) :
    signed negative q - signed negative p = signed negative (q - p) := by
  cases negative with
  | false => rfl
  | true =>
    simp only [signed, ↓reduceIte]
    ring

theorem signed_mul (a b : Bool) (p q : ℚ) :
    signed a p * signed b q = signed (a ^^ b) (p * q) := by
  cases a <;> cases b <;> simp [signed]

/-- A significand and its shift are fixed by the units they make. -/
theorem Finite.parts_of_units_eq (x y : Finite) (h : x.units = y.units) :
    x.significand = y.significand ∧ x.shift = y.shift := by
  have hlower : ∀ a b : Finite, a.units = b.units → ¬a.shift < b.shift := by
    intro a b hunits hlt
    have hhigh : 4503599627370496 ≤ b.significand := b.high_bit.resolve_left (by omega)
    have hsplit : twoPow b.shift = twoPow a.shift * 2 * twoPow (b.shift - (a.shift + 1)) := by
      rw [← twoPow_succ, ← twoPow_add]
      congr 1
      omega
    have hcancel : a.significand = b.significand * (2 * twoPow (b.shift - (a.shift + 1))) := by
      apply Nat.eq_of_mul_eq_mul_right (twoPow_pos a.shift)
      simp only [Finite.units, hsplit] at hunits
      rw [hunits]
      ring
    have hone := twoPow_pos (b.shift - (a.shift + 1))
    have hlarge : 4503599627370496 * 2 ≤ a.significand := by
      rw [hcancel]
      exact Nat.mul_le_mul hhigh (by omega)
    have hsmall := a.significand_lt
    omega
  have hshift : x.shift = y.shift := by
    have hxy := hlower x y h
    have hyx := hlower y x h.symm
    omega
  refine ⟨?_, hshift⟩
  simp only [Finite.units, hshift] at h
  exact Nat.eq_of_mul_eq_mul_right (twoPow_pos y.shift) h

theorem Finite.units_le (x : Finite) : x.units ≤ 9007199254740991 * twoPow 2045 := by
  have hsignificand := x.significand_lt
  exact Nat.mul_le_mul (by omega) (twoPow_le _ _ x.shift_le)

/-- A significand may be shifted as far as a double allows, its high bit set or not. -/
theorem Finite.exists_units (negative : Bool) (m j : Nat) (hm : m < 9007199254740992)
    (hj : j ≤ 2045) : ∃ x : Finite, x.negative = negative ∧ x.units = m * twoPow j := by
  induction j generalizing m with
  | zero => exact ⟨⟨negative, m, 0, hm, hj, .inl rfl⟩, rfl, rfl⟩
  | succ j ih =>
    by_cases hhigh : 4503599627370496 ≤ m
    · exact ⟨⟨negative, m, j + 1, hm, hj, .inr hhigh⟩, rfl, rfl⟩
    · have hdouble : m * 2 < 9007199254740992 := by omega
      have hshift : j ≤ 2045 := by omega
      obtain ⟨x, hsign, hunits⟩ := ih (m * 2) hdouble hshift
      have hsame : m * 2 * twoPow j = m * twoPow (j + 1) := by
        rw [twoPow_succ]
        ring
      exact ⟨x, hsign, hunits.trans hsame⟩

/-- Integers of at most 53 bits are doubles. -/
theorem Finite.exists_integer (z : Int) (h : z.natAbs ≤ 9007199254740992) :
    ∃ x : Finite, x.value = z := by
  have hunit := twoPow_pos_rat 1074
  have hunits : ∃ x : Finite, x.negative = decide (z < 0) ∧ x.units = z.natAbs * twoPow 1074 := by
    have hsize : twoPow 53 = 9007199254740992 := rfl
    by_cases hlast : z.natAbs = twoPow 53
    · rw [hlast, ← twoPow_add, ← Nat.one_mul (twoPow (53 + 1074))]
      exact exists_units _ 1 (53 + 1074) (by omega) (by omega)
    · exact exists_units _ z.natAbs 1074 (by omega) (by omega)
  obtain ⟨x, hsign, hx⟩ := hunits
  refine ⟨x, ?_⟩
  rw [value, hx, Nat.cast_mul, mul_div_cancel_right₀ _ hunit.ne', hsign]
  by_cases hz : z < 0
  · have habs : ((z.natAbs : Nat) : Int) = -z := by omega
    have hcast : (z.natAbs : ℚ) = -z := by rw [← Int.cast_natCast, habs, Int.cast_neg]
    simp only [signed, hz, decide_true, ↓reduceIte, hcast, neg_neg]
  · have habs : ((z.natAbs : Nat) : Int) = z := by omega
    have hcast : (z.natAbs : ℚ) = z := by rw [← Int.cast_natCast, habs]
    simp only [signed, hz, decide_false, Bool.false_eq_true, ↓reduceIte, hcast]

/-- Equal doubles stand for one number. -/
theorem Binary64.equals_finite_iff (x y : Finite) :
    (finite x).equals (finite y) = true ↔ x.value = y.value := by
  have hunit := twoPow_pos_rat 1074
  have hx : (0 : ℚ) ≤ x.units := Nat.cast_nonneg _
  have hy : (0 : ℚ) ≤ y.units := Nat.cast_nonneg _
  simp only [equals, Bool.and_eq_true, Bool.or_eq_true, beq_iff_eq, Finite.value]
  constructor
  · rintro ⟨hunits, hsign | hzero⟩
    · rw [hunits, hsign]
    · rw [← hunits, hzero, Nat.cast_zero, zero_div]
      cases x.negative <;> cases y.negative <;> simp [signed]
  · intro hvalue
    have habs := congrArg abs hvalue
    rw [abs_signed, abs_signed, abs_of_nonneg (div_nonneg hx hunit.le),
      abs_of_nonneg (div_nonneg hy hunit.le), div_left_inj' hunit.ne'] at habs
    have hunits : x.units = y.units := Nat.cast_inj.mp habs
    refine ⟨hunits, ?_⟩
    by_cases hsign : x.negative = y.negative
    · exact .inl hsign
    · right
      rw [hunits] at hvalue
      have hquotient : (y.units : ℚ) / twoPow 1074 = 0 := by
        cases hxs : x.negative <;> cases hys : y.negative <;>
          simp only [hxs, hys, signed, Bool.false_eq_true, ↓reduceIte, not_true_eq_false]
            at hvalue hsign <;> linarith
      have hcast : (y.units : ℚ) = 0 := (div_eq_zero_iff.mp hquotient).resolve_right hunit.ne'
      rw [hunits]
      exact Nat.cast_eq_zero.mp hcast

/-! ### Nearest doubles -/

/-- The first of two candidates is nearer to a number than the second, or as near and has the
even significand. -/
def Beats (q first second : ℚ) (significand other : Nat) : Prop :=
  |q - first| < |q - second| ∨
    |q - first| = |q - second| ∧ significand % 2 = 0 ∧ other % 2 = 1

/-- Half a unit beyond the greatest finite double. -/
def finiteLimit : ℚ := 18014398509481983 * twoPow 2044 / twoPow 1074

/-- The double is nearest to the number. -/
def Nearest (q : ℚ) : Binary64 → Prop
  | .nan => False
  | .infinity negative => finiteLimit ≤ |q| ∧ (negative = true ↔ q < 0)
  | .finite x => |q| < finiteLimit ∧
      ∀ y : Finite, y.value = x.value ∨ Beats q x.value y.value x.significand y.significand

theorem Beats.asymm {q first second : ℚ} {significand other : Nat}
    (h : Beats q first second significand other) : ¬Beats q second first other significand := by
  rintro (hnearer | ⟨hequal, heven, hodd⟩)
  · rcases h with h | ⟨h, _⟩
    · exact lt_asymm h hnearer
    · exact hnearer.ne h.symm
  · rcases h with h | ⟨_, heven', _⟩
    · exact h.ne hequal.symm
    · omega

/-- A number has one nearest double. -/
theorem equals_of_nearest (q : ℚ) (x y : Binary64) (hx : Nearest q x) (hy : Nearest q y) :
    x.equals y = true := by
  cases x with
  | nan => exact hx.elim
  | infinity a =>
    cases y with
    | nan => exact hy.elim
    | infinity b =>
      have hsign : a = b := Bool.eq_iff_iff.mpr (hx.2.trans hy.2.symm)
      rw [hsign]
      exact beq_self_eq_true b
    | finite y => exact absurd hy.1 (not_lt.mpr hx.1)
  | finite x =>
    cases y with
    | nan => exact hy.elim
    | infinity b => exact absurd hx.1 (not_lt.mpr hy.1)
    | finite y =>
      rw [Binary64.equals_finite_iff]
      rcases hx.2 y with h | h
      · exact h.symm
      · rcases hy.2 x with h' | h'
        · exact h'
        · exact absurd h' h.asymm

/-- Equal doubles are nearest to the same numbers. -/
theorem nearest_of_equals (q : ℚ) (x y : Binary64) (h : x.equals y = true) (hy : Nearest q y) :
    Nearest q x := by
  cases x with
  | nan => cases h
  | infinity a =>
    cases y with
    | infinity b =>
      have hsign : a = b := beq_iff_eq.mp h
      rw [hsign]
      exact hy
    | _ => cases h
  | finite x =>
    cases y with
    | finite y =>
      have hunits : x.units = y.units := by
        simp only [Binary64.equals, Bool.and_eq_true, beq_iff_eq] at h
        exact h.1
      have hvalue := (Binary64.equals_finite_iff x y).mp h
      have hparts := Finite.parts_of_units_eq x y hunits
      simpa only [Nearest, hvalue, hparts.1] using hy
    | _ => cases h

/-- A finite double is nearest to the number it stands for. -/
theorem nearest_value (x : Finite) : Nearest x.value (.finite x) := by
  have hunit := twoPow_pos_rat 1074
  constructor
  · have hle : (x.units : ℚ) ≤ 9007199254740991 * twoPow 2045 := by
      exact_mod_cast x.units_le
    have hdouble := twoPow_succ_rat 2044
    have hpos := twoPow_pos_rat 2044
    have hunits : (0 : ℚ) ≤ x.units := Nat.cast_nonneg _
    rw [Finite.value, abs_signed, abs_of_nonneg (div_nonneg hunits hunit.le), finiteLimit]
    apply div_lt_div_of_pos_right _ hunit
    linarith
  · intro y
    by_cases h : y.value = x.value
    · exact .inl h
    · right
      left
      rw [sub_self, abs_zero]
      exact abs_pos.mpr fun hzero => h (sub_eq_zero.mp hzero).symm

/-! ### Order -/

/-- Rounding does not pass a double that lies below. -/
theorem Nearest.le_value {q : ℚ} {x : Finite} (h : Nearest q (.finite x)) (y : Finite)
    (hy : y.value ≤ q) : y.value ≤ x.value := by
  have habs := le_abs_self (q - x.value)
  have hself : |q - y.value| = q - y.value := abs_of_nonneg (by linarith)
  rcases h.2 y with hsame | hnearer | ⟨hequal, _⟩
  · exact hsame.le
  · linarith
  · linarith

/-- Rounding does not pass a double that lies above. -/
theorem Nearest.value_le {q : ℚ} {x : Finite} (h : Nearest q (.finite x)) (y : Finite)
    (hy : q ≤ y.value) : x.value ≤ y.value := by
  have habs := neg_le_abs (q - x.value)
  have hself : |q - y.value| = y.value - q := by
    rw [abs_of_nonpos (by linarith)]
    ring
  rcases h.2 y with hsame | hnearer | ⟨hequal, _⟩
  · exact hsame.ge
  · linarith
  · linarith

theorem exists_finite_of_nearest {q : ℚ} {x : Binary64} (h : Nearest q x)
    (hq : |q| < finiteLimit) : ∃ y, x = .finite y := by
  cases x with
  | nan => exact h.elim
  | infinity negative => exact absurd h.1 (not_le.mpr hq)
  | finite y => exact ⟨y, rfl⟩

/-- Powers of two are doubles. -/
theorem Finite.exists_twoPow (k : Nat) (hk : k ≤ 971) : ∃ x : Finite, x.value = twoPow k := by
  have hunit := twoPow_pos_rat 1074
  obtain ⟨x, hsign, hunits⟩ := Finite.exists_units false 1 (k + 1074) (by decide) (by omega)
  refine ⟨x, ?_⟩
  rw [Finite.value, hunits, hsign, Nat.one_mul, twoPow_add_rat, mul_div_cancel_right₀ _ hunit.ne']
  rfl

/-- Rounding passes no power of two. -/
theorem Nearest.twoPow_le {q : ℚ} {x : Finite} (h : Nearest q (.finite x)) {k : Nat}
    (hk : k ≤ 971) (hq : twoPow k ≤ q) : twoPow k ≤ x.value := by
  obtain ⟨y, hy⟩ := Finite.exists_twoPow k hk
  rw [← hy] at hq ⊢
  exact h.le_value y hq

theorem Nearest.le_twoPow {q : ℚ} {x : Finite} (h : Nearest q (.finite x)) {k : Nat}
    (hk : k ≤ 971) (hq : q ≤ twoPow k) : x.value ≤ twoPow k := by
  obtain ⟨y, hy⟩ := Finite.exists_twoPow k hk
  rw [← hy] at hq ⊢
  exact h.value_le y hq

theorem natCast_lt_finiteLimit (n : Nat) (h : n < 18014398509481983 * twoPow 970) :
    (n : ℚ) < finiteLimit := by
  have hunit := twoPow_pos_rat 1074
  have hsplit := twoPow_add_rat 970 1074
  rw [finiteLimit, hsplit, ← mul_assoc, mul_div_cancel_right₀ _ hunit.ne']
  exact_mod_cast h

theorem Finite.isZero_of_pos (x : Finite) (h : 0 < x.value) :
    (Binary64.finite x).isZero = false := by
  rw [Binary64.isZero, beq_eq_false_iff_ne]
  intro hzero
  rw [value, units, hzero, Nat.zero_mul, Nat.cast_zero, zero_div] at h
  cases x.negative <;> simp [signed] at h

/-! ### Truncation -/

theorem Finite.truncate_neg (x : Finite) :
    Finite.truncate { x with negative := !x.negative } = -x.truncate := by
  have hunits : Finite.units { x with negative := !x.negative } = x.units := rfl
  simp only [truncate, hunits]
  cases x.negative with
  | false => simp only [Bool.not_false, Bool.false_eq_true, ↓reduceIte]
  | true => simp only [Bool.not_true, Bool.false_eq_true, ↓reduceIte, neg_neg]

/-- Dropping the fraction does not pass a whole number. -/
theorem Finite.le_truncate (x : Finite) (m : Nat) (hm : 0 < m) (h : (m : ℚ) ≤ x.value) :
    (m : Int) ≤ x.truncate := by
  have hunit := twoPow_pos_rat 1074
  have hpos : (0 : ℚ) < m := Nat.cast_pos.mpr hm
  have hunits : (0 : ℚ) ≤ x.units / twoPow 1074 := div_nonneg (Nat.cast_nonneg _) hunit.le
  cases hsign : x.negative with
  | false =>
    simp only [value, hsign, signed, Bool.false_eq_true, ↓reduceIte] at h
    rw [le_div_iff₀ hunit] at h
    have hwhole : m ≤ x.units / twoPow 1074 := by
      rw [Nat.le_div_iff_mul_le (twoPow_pos 1074)]
      exact_mod_cast h
    simp only [truncate, hsign, Bool.false_eq_true, ↓reduceIte]
    exact_mod_cast hwhole
  | true =>
    simp only [value, hsign, signed, ↓reduceIte] at h
    linarith

end Fieldwise.Number
