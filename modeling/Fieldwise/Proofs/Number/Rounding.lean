import Fieldwise.Proofs.Number.Nearest

/-!
# Rounding to the nearest double

Division rounds to the nearest whole number, the even one on a tie. Done at the shift that leaves
a significand its bits, this is the rounding to the nearest of all doubles, since a double is a
multiple of the shifted unit or too small to be near. So the rounding of a ratio and that of a
decimal numeral give the nearest double, whatever the size of the number.
-/

namespace Fieldwise.Number

/-! ### Rounding to a whole number -/

theorem cast_div_eq (num den : Nat) (hden : 0 < den) :
    (num : ℚ) / den = (num / den : Nat) + (num % den : Nat) / den := by
  have hcast : (den : ℚ) ≠ 0 := Nat.cast_ne_zero.mpr hden.ne'
  have hsplit : (num : ℚ) = den * (num / den : Nat) + (num % den : Nat) := by
    exact_mod_cast (Nat.div_add_mod num den).symm
  rw [div_eq_iff hcast, add_mul, div_mul_cancel₀ _ hcast]
  linarith

/-- The distances of a number between two neighbours: it lies `f` above the lower one, and any
other whole number is farther off than the neighbour on its side. -/
theorem abs_sub_natCast (n m : Nat) (f : ℚ) (hlow : 0 ≤ f) (hhigh : f < 1) :
    |(n : ℚ) + f - n| = f ∧ |(n : ℚ) + f - (n + 1 : Nat)| = 1 - f ∧
      (m ≠ n → 1 - f ≤ |(n : ℚ) + f - m|) ∧ (m ≠ n + 1 → f ≤ |(n : ℚ) + f - m|) ∧
      (m ≠ n → m ≠ n + 1 → 1 ≤ |(n : ℚ) + f - m|) := by
  have hbelow : m < n → (n : ℚ) + f - m ≥ 1 + f := by
    intro h
    have hcast : (m : ℚ) + 1 ≤ n := by exact_mod_cast h
    linarith
  have habove : n + 1 < m → (n : ℚ) + f - m ≤ -(2 - f) := by
    intro h
    have hcast : (n : ℚ) + 2 ≤ m := by exact_mod_cast h
    linarith
  have hself : (n : ℚ) + f - n = f := by ring
  have hnext : (n : ℚ) + f - (n + 1 : Nat) = -(1 - f) := by
    push_cast
    ring
  have hself' : |(n : ℚ) + f - n| = f := by rw [hself, abs_of_nonneg hlow]
  have hnext' : |(n : ℚ) + f - (n + 1 : Nat)| = 1 - f := by
    rw [hnext, abs_neg, abs_of_pos (by linarith)]
  have hsides : m < n ∨ m = n ∨ m = n + 1 ∨ n + 1 < m := by omega
  have hle := le_abs_self ((n : ℚ) + f - m)
  have hge := neg_le_abs ((n : ℚ) + f - m)
  refine ⟨hself', hnext', ?_, ?_, ?_⟩
  · intro h
    rcases hsides with hm | hm | hm | hm
    · linarith [hbelow hm]
    · exact absurd hm h
    · rw [hm, hnext']
    · linarith [habove hm]
  · intro h
    rcases hsides with hm | hm | hm | hm
    · linarith [hbelow hm]
    · rw [hm, hself']
    · exact absurd hm h
    · linarith [habove hm]
  · intro h h'
    rcases hsides with hm | hm | hm | hm
    · linarith [hbelow hm]
    · exact absurd hm h
    · exact absurd hm h'
    · linarith [habove hm]

theorem roundDiv_beats (num den m : Nat) (hden : 0 < den) (hm : m ≠ roundDiv num den) :
    Beats ((num : ℚ) / den) (roundDiv num den) m (roundDiv num den) m := by
  have hpos : (0 : ℚ) < den := Nat.cast_pos.mpr hden
  have hmod : num % den < den := Nat.mod_lt _ hden
  have hlow : (0 : ℚ) ≤ (num % den : Nat) / den := by positivity
  have hhigh : ((num % den : Nat) : ℚ) / den < 1 := by
    rw [div_lt_one hpos]
    exact_mod_cast hmod
  have hbelow : 2 * (num % den) < den ↔ 2 * (((num % den : Nat) : ℚ) / den) < 1 := by
    rw [← mul_div_assoc, div_lt_one hpos]
    exact_mod_cast Iff.rfl
  have habove : den < 2 * (num % den) ↔ 1 < 2 * (((num % den : Nat) : ℚ) / den) := by
    rw [← mul_div_assoc, one_lt_div hpos]
    exact_mod_cast Iff.rfl
  rw [cast_div_eq num den hden]
  unfold roundDiv at hm ⊢
  simp only [hbelow, habove] at hm ⊢
  generalize ((num % den : Nat) : ℚ) / den = f at *
  generalize num / den = n at *
  obtain ⟨hself, hnext, hothers, hothers', hfar⟩ := abs_sub_natCast n m f hlow hhigh
  split at hm
  · rename_i hdown
    left
    simp only [hdown, ↓reduceIte, hself]
    linarith [hothers hm]
  · rename_i hdown
    split at hm
    · rename_i hup
      left
      simp only [hdown, hup, ↓reduceIte, hnext]
      linarith [hothers' hm]
    · rename_i hup
      -- Both neighbours are as near.
      have htie : f = 1 / 2 := by linarith
      split at hm
      · rename_i heven
        simp only [hdown, hup, heven, ↓reduceIte]
        by_cases hother : m = n + 1
        · right
          rw [hother, hself, hnext]
          exact ⟨by linarith, heven, by omega⟩
        · left
          rw [hself]
          linarith [hfar hm hother]
      · rename_i hodd
        simp only [hdown, hup, hodd, ↓reduceIte]
        by_cases hother : m = n
        · right
          rw [hother, hself, hnext]
          exact ⟨by linarith, by omega, by omega⟩
        · left
          rw [hnext]
          linarith [hfar hother hm]

theorem abs_sub_roundDiv_le (num den m : Nat) (hden : 0 < den) :
    |(num : ℚ) / den - roundDiv num den| ≤ |(num : ℚ) / den - m| := by
  by_cases hm : m = roundDiv num den
  · rw [hm]
  · rcases roundDiv_beats num den m hden hm with h | h
    · exact h.le
    · exact h.1.le

/-- Rounding does not pass a whole number. -/
theorem le_roundDiv (num den m : Nat) (hden : 0 < den) (h : (m : ℚ) ≤ num / den) :
    m ≤ roundDiv num den := by
  by_contra hlt
  have hcast : (roundDiv num den : ℚ) + 1 ≤ m := by exact_mod_cast not_le.mp hlt
  have hle := abs_sub_roundDiv_le num den m hden
  rw [abs_of_nonneg (by linarith), abs_of_nonneg (by linarith)] at hle
  linarith

theorem roundDiv_le (num den m : Nat) (hden : 0 < den) (h : (num : ℚ) / den ≤ m) :
    roundDiv num den ≤ m := by
  by_contra hlt
  have hcast : (m : ℚ) + 1 ≤ roundDiv num den := by exact_mod_cast not_le.mp hlt
  have hle := abs_sub_roundDiv_le num den m hden
  rw [abs_of_nonpos (by linarith), abs_of_nonpos (by linarith)] at hle
  linarith

/-- A number below `m + 1` is rounded up to it from half a unit below it on, if that is even. -/
theorem roundDiv_eq_succ_iff (num den m : Nat) (hden : 0 < den) (heven : (m + 1) % 2 = 0)
    (h : (num : ℚ) / den < m + 1) :
    roundDiv num den = m + 1 ↔ (2 * m + 1 : ℚ) ≤ 2 * (num / den) := by
  have hmost : roundDiv num den ≤ m + 1 := by
    apply roundDiv_le num den (m + 1) hden
    push_cast
    exact h.le
  constructor
  · intro hup
    have hle := abs_sub_roundDiv_le num den m hden
    rw [hup] at hle
    push_cast at hle
    rw [abs_of_neg (by linarith)] at hle
    rcases le_total ((num : ℚ) / den) m with hbelow | habove
    · rw [abs_of_nonpos (by linarith)] at hle
      linarith
    · rw [abs_of_nonneg (by linarith)] at hle
      linarith
  · intro hhalf
    by_contra hne
    have hcast : (roundDiv num den : ℚ) ≤ m := by exact_mod_cast (by omega : roundDiv num den ≤ m)
    have hnext : |(num : ℚ) / den - (m + 1 : Nat)| = m + 1 - num / den := by
      push_cast
      rw [abs_of_neg (by linarith)]
      ring
    have hrounded : |(num : ℚ) / den - roundDiv num den| = num / den - roundDiv num den :=
      abs_of_nonneg (by linarith)
    rcases roundDiv_beats num den (m + 1) hden (fun heq => hne heq.symm) with hlt | ⟨_, _, hodd⟩
    · rw [hnext, hrounded] at hlt
      linarith
    · omega

/-! ### Rounding to a significand -/

theorem Beats.scale {q first second c : ℚ} {significand other : Nat} (hc : 0 < c)
    (h : Beats q first second significand other) :
    Beats (q * c) (first * c) (second * c) significand other := by
  unfold Beats at h ⊢
  simp only [← sub_mul, abs_mul, abs_of_pos hc]
  rcases h with h | ⟨h, hparity⟩
  · exact .inl (mul_lt_mul_of_pos_right h hc)
  · exact .inr ⟨by rw [h], hparity⟩

theorem Beats.parity {q first second : ℚ} {m n m' n' : Nat} (h : Beats q first second m n)
    (heven : m % 2 = 0 → m' % 2 = 0) (hodd : n % 2 = 1 → n' % 2 = 1) :
    Beats q first second m' n' :=
  h.imp_right fun h => ⟨h.1, heven h.2.1, hodd h.2.2⟩

/-- The shift takes from a whole number the bits that a significand has no place for. -/
theorem shift_bounds (n : Nat) :
    n < twoPow (53 + (n.log2 + 1 - 53)) ∧
      (n.log2 + 1 - 53 = 0 ∨ twoPow (52 + (n.log2 + 1 - 53)) ≤ n) := by
  constructor
  · have hlog : n < twoPow (n.log2 + 1) := Nat.lt_log2_self
    exact lt_of_lt_of_le hlog (twoPow_le _ _ (by omega))
  · by_cases hzero : n.log2 + 1 - 53 = 0
    · exact .inl hzero
    · right
      have hn : n ≠ 0 := by
        rintro rfl
        exact hzero rfl
      have hlog : twoPow n.log2 ≤ n := Nat.log2_self_le hn
      have hexponent : 52 + (n.log2 + 1 - 53) = n.log2 := by omega
      rw [hexponent]
      exact hlog

/-- A double is a multiple of a power of two, or too small for a significand at it. -/
theorem Finite.units_grid (y : Finite) (k : Nat) :
    (∃ m, y.units = m * twoPow k ∧ (m % 2 = 1 → y.significand % 2 = 1)) ∨
      0 < k ∧ y.units < twoPow (52 + k) := by
  by_cases hk : k ≤ y.shift
  · left
    refine ⟨y.significand * twoPow (y.shift - k), ?_, ?_⟩
    · rw [Nat.mul_assoc, ← twoPow_add, Nat.sub_add_cancel hk, Finite.units]
    · intro hodd
      exact (Nat.odd_mul.mp (Nat.odd_iff.mpr hodd)).1 |> Nat.odd_iff.mp
  · right
    have hsignificand : y.significand < twoPow 53 := y.significand_lt
    have hunits : y.units < twoPow 53 * twoPow y.shift :=
      Nat.mul_lt_mul_of_pos_right hsignificand (twoPow_pos _)
    rw [← twoPow_add] at hunits
    exact ⟨by omega, lt_of_lt_of_le hunits (twoPow_le _ _ (by omega))⟩

theorem cast_div_shifted (num den k : Nat) :
    (num : ℚ) / (den * twoPow k : Nat) = num / den / twoPow k := by
  rw [Nat.cast_mul, div_div]

/-- Rounding at a shift finds the nearest of all doubles if the number is large enough for it. -/
theorem rounded_beats (num den k : Nat) (hden : 0 < den)
    (hk : k = 0 ∨ (twoPow (52 + k) : ℚ) ≤ num / den) (y : Finite) :
    (y.units : ℚ) = roundDiv num (den * twoPow k) * twoPow k ∨
      Beats (num / den) (roundDiv num (den * twoPow k) * twoPow k) y.units
        (roundDiv num (den * twoPow k)) y.significand := by
  have hpow := twoPow_pos_rat k
  have hden' : 0 < den * twoPow k := Nat.mul_pos hden (twoPow_pos k)
  have hquotient : (num : ℚ) / (den * twoPow k : Nat) * twoPow k = num / den := by
    rw [cast_div_shifted, div_mul_cancel₀ _ hpow.ne']
  rcases y.units_grid k with ⟨m, hm, hodd⟩ | ⟨hpos, hlt⟩
  · have hcast : (y.units : ℚ) = m * twoPow k := by exact_mod_cast hm
    by_cases heq : m = roundDiv num (den * twoPow k)
    · left
      rw [hcast, heq]
    · right
      have hbeats := (roundDiv_beats num _ m hden' heq).scale hpow
      rw [hquotient, ← hcast] at hbeats
      exact hbeats.parity id hodd
  · right
    left
    have hlarge := hk.resolve_left hpos.ne'
    have hcast : (y.units : ℚ) < twoPow (52 + k) := by exact_mod_cast hlt
    have hleast := twoPow_add_rat 52 k
    have hle := mul_le_mul_of_nonneg_right (abs_sub_roundDiv_le num _ (twoPow 52) hden') hpow.le
    rw [← abs_of_pos hpow, ← abs_mul, ← abs_mul, sub_mul, sub_mul, hquotient, ← hleast,
      abs_of_nonneg (sub_nonneg.mpr hlarge)] at hle
    rw [abs_of_pos (a := (num : ℚ) / den - y.units) (by linarith)]
    linarith

/-- The parts of the double nearest to a number of units, its shift not bounded. -/
structure RoundsTo (units : ℚ) (significand shift : Nat) : Prop where
  significand_lt : significand < 9007199254740992
  high_bit : shift = 0 ∨ 4503599627370496 ≤ significand
  shift_le_iff : shift ≤ 2045 ↔ units < 18014398509481983 * twoPow 2044
  beats : ∀ y : Finite, (y.units : ℚ) = significand * twoPow shift ∨
    Beats units (significand * twoPow shift) y.units significand y.significand

theorem cast_twoPow_fifty_three : (twoPow 53 : ℚ) = 9007199254740992 := by norm_num [twoPow]

/-- A number with the bits of a shift rounds to a significand, or to the least one too large. -/
theorem roundDiv_shifted (num den k : Nat) (hden : 0 < den)
    (hupper : (num : ℚ) / den < twoPow (53 + k))
    (hlower : k = 0 ∨ (twoPow (52 + k) : ℚ) ≤ num / den) :
    roundDiv num (den * twoPow k) ≤ twoPow 53 ∧
      (k = 0 ∨ twoPow 52 ≤ roundDiv num (den * twoPow k)) := by
  have hpow := twoPow_pos_rat k
  have hden' : 0 < den * twoPow k := Nat.mul_pos hden (twoPow_pos k)
  constructor
  · apply roundDiv_le _ _ _ hden'
    rw [cast_div_shifted, div_le_iff₀ hpow]
    rw [← twoPow_add_rat]
    exact hupper.le
  · apply hlower.imp_right
    intro hlower
    apply le_roundDiv _ _ _ hden'
    rw [cast_div_shifted, le_div_iff₀ hpow]
    rw [← twoPow_add_rat]
    exact hlower

/-- At the greatest shift, a number is carried beyond it from half a unit below it on. -/
theorem carried_iff (num den : Nat) (hden : 0 < den)
    (hupper : (num : ℚ) / den < twoPow (53 + 2045)) :
    roundDiv num (den * twoPow 2045) = twoPow 53 ↔
      (18014398509481983 : ℚ) * twoPow 2044 ≤ num / den := by
  have hpow := twoPow_pos_rat 2045
  have hden' : 0 < den * twoPow 2045 := Nat.mul_pos hden (twoPow_pos 2045)
  have hsplit := twoPow_add_rat 53 2045
  have hdouble := twoPow_succ_rat 2044
  rw [cast_twoPow_fifty_three] at hsplit
  have hbelow : (num : ℚ) / (den * twoPow 2045 : Nat) < (9007199254740991 : Nat) + 1 := by
    rw [cast_div_shifted, div_lt_iff₀ hpow]
    push_cast
    linarith
  have hcarry := roundDiv_eq_succ_iff num _ 9007199254740991 hden' (by decide) hbelow
  have hlimit : (2 * (9007199254740991 : Nat) + 1 : ℚ) ≤
      2 * (num / (den * twoPow 2045 : Nat)) ↔
        (18014398509481983 : ℚ) * twoPow 2044 ≤ num / den := by
    rw [cast_div_shifted, ← mul_div_assoc, le_div_iff₀ hpow]
    push_cast
    constructor <;> intro h <;> linarith
  exact hcarry.trans hlimit

theorem carried_shift_le_iff (num den k : Nat) (hden : 0 < den)
    (hupper : (num : ℚ) / den < twoPow (53 + k))
    (hlower : k = 0 ∨ (twoPow (52 + k) : ℚ) ≤ num / den) :
    (if roundDiv num (den * twoPow k) = twoPow 53 then k + 1 else k) ≤ 2045 ↔
      (num : ℚ) / den < 18014398509481983 * twoPow 2044 := by
  have hpow := twoPow_pos_rat 2044
  rcases Nat.lt_trichotomy k 2045 with hk | rfl | hk
  · have hle := twoPow_le_rat (53 + k) (53 + 2044) (by omega)
    have hsplit := twoPow_add_rat 53 2044
    rw [cast_twoPow_fifty_three] at hsplit
    have hshift : (if roundDiv num (den * twoPow k) = twoPow 53 then k + 1 else k) ≤ 2045 := by
      split <;> omega
    simp only [hshift, true_iff]
    linarith
  · have hcarried := carried_iff num den hden hupper
    rw [← not_le, ← hcarried]
    split
    · rename_i hcarry
      simp only [hcarry, not_true_eq_false, iff_false]
      omega
    · rename_i hkept
      simp only [hkept, not_false_eq_true, iff_true]
      omega
  · have hlarge := hlower.resolve_left (by omega)
    have hle := twoPow_le_rat (54 + 2044) (52 + k) (by omega)
    have hcount : (twoPow 54 : ℚ) = 18014398509481984 := by norm_num [twoPow]
    have hsplit := twoPow_add_rat 54 2044
    rw [hcount] at hsplit
    have hshift : ¬(if roundDiv num (den * twoPow k) = twoPow 53 then k + 1 else k) ≤ 2045 := by
      split <;> omega
    simp only [hshift, false_iff, not_lt]
    linarith

/-- Rounding at the shift of a number, the greatest significand carried into the next shift. -/
theorem carry_roundsTo (num den k : Nat) (hden : 0 < den) (hbelow : num / den < twoPow (53 + k))
    (habove : k = 0 ∨ twoPow (52 + k) ≤ num / den) (parts : Nat × Nat)
    (hparts : parts = if roundDiv num (den * twoPow k) = twoPow 53 then (twoPow 52, k + 1)
      else (roundDiv num (den * twoPow k), k)) :
    RoundsTo (num / den) parts.1 parts.2 := by
  have hpos : (0 : ℚ) < den := Nat.cast_pos.mpr hden
  have hupper : (num : ℚ) / den < twoPow (53 + k) := by
    rw [div_lt_iff₀ hpos]
    exact_mod_cast (Nat.div_lt_iff_lt_mul hden).mp hbelow
  have hlower : k = 0 ∨ (twoPow (52 + k) : ℚ) ≤ num / den := by
    apply habove.imp_right
    intro h
    rw [le_div_iff₀ hpos]
    exact_mod_cast (Nat.le_div_iff_mul_le hden).mp h
  have hgrid := rounded_beats num den k hden hlower
  have hrange := roundDiv_shifted num den k hden hupper hlower
  have hshift := carried_shift_le_iff num den k hden hupper hlower
  by_cases hcarry : roundDiv num (den * twoPow k) = twoPow 53
  · rw [if_pos hcarry] at hparts hshift
    subst hparts
    have hunits : (twoPow 53 : ℚ) * twoPow k = twoPow 52 * twoPow (k + 1) := by
      rw [← twoPow_add_rat, ← twoPow_add_rat]
      congr 2
      omega
    have hsmall : twoPow 52 < 9007199254740992 := by decide
    have hlarge : 4503599627370496 ≤ twoPow 52 := by decide
    have heven : twoPow 52 % 2 = 0 := by decide
    refine ⟨hsmall, .inr hlarge, hshift, ?_⟩
    intro y
    have hy := hgrid y
    rw [hcarry, hunits] at hy
    exact hy.imp_right fun h => h.parity (fun _ => heven) id
  · rw [if_neg hcarry] at hparts hshift
    subst hparts
    exact ⟨lt_of_le_of_ne hrange.1 hcarry, hrange.2, hshift, hgrid⟩

theorem round_roundsTo (num den : Nat) (hden : 0 < den) :
    RoundsTo ((num * twoPow 1074 : Nat) / den)
      (BinaryFormat.double.round num den).1 (BinaryFormat.double.round num den).2 := by
  have hbounds := shift_bounds (num * twoPow 1074 / den)
  exact carry_roundsTo _ den _ hden hbounds.1 hbounds.2 _ rfl

/-! ### The nearest double -/

theorem Beats.signed {q first second : ℚ} {significand other : Nat} (negative : Bool)
    (h : Beats q first second significand other) :
    Beats (signed negative q) (signed negative first) (signed negative second) significand
      other := by
  unfold Beats at h ⊢
  simpa only [signed_sub, abs_signed] using h

/-- A double stands on one side of zero or on the other. -/
theorem Finite.value_sides (y : Finite) (negative : Bool) :
    y.value = signed negative (y.units / twoPow 1074) ∨
      y.value = signed negative (-y.units / twoPow 1074) := by
  cases negative <;> cases hy : y.negative <;>
    simp only [value, hy, Number.signed, Bool.false_eq_true, ↓reduceIte, neg_div, neg_neg,
      true_or, or_true]

/-- No double is nearer on the other side of zero. -/
theorem RoundsTo.beats_opposite {r : ℚ} {significand shift : Nat}
    (h : RoundsTo r significand shift) (hr : 0 ≤ r) (y : Finite) :
    (-y.units : ℚ) = significand * twoPow shift ∨
      Beats r (significand * twoPow shift) (-y.units) significand y.significand := by
  have hy := h.beats y
  by_cases hzero : y.units = 0
  · rw [hzero, Nat.cast_zero] at hy
    rw [hzero, Nat.cast_zero, neg_zero]
    exact hy
  · right
    left
    -- Zero stands between them, and is not nearer either.
    have hle : |r - significand * twoPow shift| ≤ r := by
      have hunits : (Finite.units ⟨false, 0, 0, by decide, by decide, .inl rfl⟩ : ℚ) = 0 :=
        Nat.cast_zero
      rcases h.beats ⟨false, 0, 0, by decide, by decide, .inl rfl⟩ with hequal | hlt | ⟨hequal, _⟩
      · rw [← hequal, hunits, sub_zero, abs_of_nonneg hr]
      · rw [hunits, sub_zero, abs_of_nonneg hr] at hlt
        exact hlt.le
      · rw [hunits, sub_zero, abs_of_nonneg hr] at hequal
        exact hequal.le
    have hpos : (0 : ℚ) < y.units := Nat.cast_pos.mpr (Nat.pos_of_ne_zero hzero)
    rw [sub_neg_eq_add, abs_of_pos (a := r + y.units) (by linarith)]
    linarith

theorem nearest_infinity (r : ℚ) (negative : Bool) (h : 18014398509481983 * twoPow 2044 ≤ r) :
    Nearest (signed negative (r / twoPow 1074)) (.infinity negative) := by
  have hunit := twoPow_pos_rat 1074
  have hpow := twoPow_pos_rat 2044
  have hr : 0 < r := by linarith
  have hpos := div_pos hr hunit
  constructor
  · rw [abs_signed, abs_of_pos hpos, finiteLimit]
    exact div_le_div_of_nonneg_right h hunit.le
  · cases negative with
    | false =>
      simp only [signed, Bool.false_eq_true, ↓reduceIte, false_iff, not_lt]
      exact hpos.le
    | true =>
      simp only [signed, ↓reduceIte, true_iff]
      linarith

theorem RoundsTo.nearest {r : ℚ} {significand shift : Nat} (h : RoundsTo r significand shift)
    (hr : 0 ≤ r) (negative : Bool) :
    Nearest (signed negative (r / twoPow 1074)) (.ofParts negative significand shift) := by
  have hunit := twoPow_pos_rat 1074
  have hinv : (0 : ℚ) < (twoPow 1074 : ℚ)⁻¹ := inv_pos.mpr hunit
  by_cases hshift : shift ≤ 2045
  · rw [Binary64.ofParts, dif_pos ⟨h.significand_lt, hshift, h.high_bit⟩]
    constructor
    · rw [abs_signed, abs_of_nonneg (div_nonneg hr hunit.le), finiteLimit]
      exact div_lt_div_of_pos_right (h.shift_le_iff.mp hshift) hunit
    · intro y
      have hside : ∀ side : ℚ, side = significand * twoPow shift ∨
          Beats r (significand * twoPow shift) side significand y.significand →
          signed negative (side / twoPow 1074) =
              signed negative (significand * twoPow shift / twoPow 1074) ∨
            Beats (signed negative (r / twoPow 1074))
              (signed negative (significand * twoPow shift / twoPow 1074))
              (signed negative (side / twoPow 1074)) significand y.significand := by
        rintro side (rfl | hbeats)
        · exact .inl rfl
        · right
          simpa only [div_eq_mul_inv] using (hbeats.scale hinv).signed negative
      have hself : Finite.value
          ⟨negative, significand, shift, h.significand_lt, hshift, h.high_bit⟩ =
            signed negative (significand * twoPow shift / twoPow 1074) := by
        rw [Finite.value, Finite.units, Nat.cast_mul]
      rw [hself]
      rcases y.value_sides negative with hvalue | hvalue
      · rw [hvalue]
        exact hside _ (h.beats y)
      · rw [hvalue]
        exact hside _ (h.beats_opposite hr y)
  · rw [Binary64.ofParts, dif_neg fun hparts => hshift hparts.2.1]
    exact nearest_infinity r negative (not_lt.mp fun hlt => hshift (h.shift_le_iff.mpr hlt))

theorem nearest_ofRatio (negative : Bool) (num den : Nat) (hden : 0 < den) :
    Nearest (signed negative (num / den)) (.ofRatio negative num den) := by
  have hunit := twoPow_pos_rat 1074
  have hround := round_roundsTo num den hden
  have hnonneg : (0 : ℚ) ≤ (num * twoPow 1074 : Nat) / den :=
    div_nonneg (Nat.cast_nonneg _) (Nat.cast_nonneg _)
  have hunits : ((num * twoPow 1074 : Nat) : ℚ) / den / twoPow 1074 = num / den := by
    rw [Nat.cast_mul, div_right_comm, mul_div_cancel_right₀ _ hunit.ne']
  have hnearest := hround.nearest hnonneg negative
  rw [hunits] at hnearest
  exact hnearest

theorem nearest_ofNat (n : Nat) : Nearest n (.ofNat n) := by
  have h := nearest_ofRatio false n 1 Nat.one_pos
  simp only [signed, Nat.cast_one, div_one, Bool.false_eq_true, ↓reduceIte] at h
  exact h

theorem exists_ofNat (n : Nat) (h : n < 18014398509481983 * twoPow 970) :
    ∃ x, Binary64.ofNat n = .finite x ∧ Nearest n (.finite x) := by
  have hnearest := nearest_ofNat n
  have hlimit : |(n : ℚ)| < finiteLimit := by
    rw [abs_of_nonneg (Nat.cast_nonneg n)]
    exact natCast_lt_finiteLimit n h
  obtain ⟨x, hx⟩ := exists_finite_of_nearest hnearest hlimit
  exact ⟨x, hx, hx ▸ hnearest⟩

/-- The product of doubles is rounded once. -/
theorem nearest_mul (x y : Finite) (product : Binary64)
    (h : Binary64.mul (.finite x) (.finite y) = product) :
    Nearest (x.value * y.value) product := by
  have hmul : Binary64.mul (.finite x) (.finite y) =
      .ofRatio (x.negative ^^ y.negative) (x.units * y.units) (twoPow 2148) := rfl
  have hpos : 0 < twoPow 2148 := twoPow_pos 2148
  have hsplit : (twoPow 2148 : ℚ) = twoPow 1074 * twoPow 1074 := by
    have hexponent : 2148 = 1074 + 1074 := rfl
    rw [hexponent, twoPow_add_rat]
  rw [← h, hmul]
  -- The unit of the product stays a name, or it would be computed.
  generalize twoPow 2148 = unit at hpos hsplit ⊢
  have hvalue : x.value * y.value =
      signed (x.negative ^^ y.negative) ((x.units * y.units : Nat) / unit) := by
    rw [Finite.value, Finite.value, signed_mul, div_mul_div_comm, hsplit, Nat.cast_mul]
  rw [hvalue]
  exact nearest_ofRatio _ _ _ hpos

/-! ### Decimal numerals -/

/-- Less than half a unit rounds to zero. -/
theorem roundsTo_zero (r : ℚ) (hr : 0 ≤ r) (hsmall : 2 * r < 1) : RoundsTo r 0 0 := by
  have hpow := twoPow_pos_rat 2044
  have hone : (1 : ℚ) ≤ twoPow 2044 := by exact_mod_cast twoPow_pos 2044
  refine ⟨by decide, .inl rfl, ?_, ?_⟩
  · simp only [Nat.zero_le, true_iff]
    linarith
  · intro y
    rw [Nat.cast_zero, zero_mul]
    by_cases hzero : y.units = 0
    · left
      rw [hzero, Nat.cast_zero]
    · right
      left
      have hunits : (1 : ℚ) ≤ y.units := Nat.one_le_cast.mpr (Nat.pos_of_ne_zero hzero)
      rw [sub_zero, abs_of_nonneg hr, abs_sub_comm, abs_of_pos (by linarith)]
      linarith

theorem tenPow_cast (n : Nat) : (tenPow n : ℚ) = 10 ^ n := by
  have hpow : tenPow n = 10 ^ n := rfl
  rw [hpow]
  push_cast
  rfl

theorem Decimal.ratio_pos (d : Decimal) : 0 < d.ratio.2 := by
  unfold ratio
  split
  · exact Nat.one_pos
  · exact tenPow_pos _

theorem Decimal.cast_ratio (d : Decimal) :
    (d.ratio.1 : ℚ) / d.ratio.2 = d.digits * 10 ^ d.exponent := by
  unfold ratio
  split
  · rename_i hexponent
    have hpow : (10 : ℚ) ^ d.exponent.toNat = 10 ^ d.exponent := by
      rw [← zpow_natCast, Int.toNat_of_nonneg hexponent]
    rw [Nat.cast_mul, tenPow_cast, hpow, Nat.cast_one, div_one]
  · rename_i hexponent
    have habs : ((d.exponent.natAbs : Nat) : Int) = -d.exponent := by omega
    have hpow : ((10 : ℚ) ^ d.exponent.natAbs)⁻¹ = 10 ^ d.exponent := by
      rw [← zpow_natCast, habs, zpow_neg, inv_inv]
    rw [tenPow_cast, div_eq_mul_inv, hpow]

/-- A numeral with so great an exponent lies beyond the doubles. -/
theorem Decimal.large_units (digits : Nat) (exponent : Int) (hdigits : digits ≠ 0)
    (h : 400 < exponent) :
    18014398509481983 * twoPow 2044 ≤ (digits : ℚ) * 10 ^ exponent * twoPow 1074 := by
  have hunit := twoPow_pos_rat 1074
  have hsplit := twoPow_add_rat 970 1074
  have hbound : (18014398509481983 : ℚ) * twoPow 970 ≤ 10 ^ 401 := by
    have hnat : 18014398509481983 * twoPow 970 ≤ tenPow 401 := by decide +kernel
    rw [← tenPow_cast]
    exact_mod_cast hnat
  have hexponent : (10 : ℚ) ^ (401 : Nat) ≤ 10 ^ exponent := by
    rw [← zpow_natCast]
    exact zpow_le_zpow_right₀ (by norm_num) (by omega)
  have hdigits' : (1 : ℚ) ≤ digits := Nat.one_le_cast.mpr (Nat.pos_of_ne_zero hdigits)
  have hpow : (0 : ℚ) < 10 ^ exponent := zpow_pos (by norm_num) _
  calc (18014398509481983 : ℚ) * twoPow 2044
      = 18014398509481983 * twoPow 970 * twoPow 1074 := by rw [mul_assoc, ← hsplit]
    _ ≤ 10 ^ exponent * twoPow 1074 :=
      mul_le_mul_of_nonneg_right (hbound.trans hexponent) hunit.le
    _ ≤ digits * 10 ^ exponent * twoPow 1074 :=
      mul_le_mul_of_nonneg_right (le_mul_of_one_le_left hpow.le hdigits') hunit.le

/-- A numeral with so small an exponent is less than half a unit. -/
theorem Decimal.small_units (digits : Nat) (exponent : Int)
    (h : exponent < -(401 + digits.log2 : Int)) :
    2 * ((digits : ℚ) * 10 ^ exponent * twoPow 1074) < 1 := by
  have hunit := twoPow_pos_rat 1074
  have hdigits : (digits : ℚ) < twoPow (1 + digits.log2) := by
    rw [Nat.add_comm]
    exact_mod_cast (Nat.lt_log2_self : digits < twoPow (digits.log2 + 1))
  have hbound : (2 : ℚ) * twoPow 1 * twoPow 1074 ≤ 10 ^ 402 := by
    have hnat : 2 * twoPow 1 * twoPow 1074 ≤ tenPow 402 := by decide +kernel
    rw [← tenPow_cast]
    exact_mod_cast hnat
  have hpowers : (twoPow digits.log2 : ℚ) ≤ 10 ^ digits.log2 := by
    have hcast : (twoPow digits.log2 : ℚ) = 2 ^ digits.log2 := by
      have hpow : twoPow digits.log2 = 2 ^ digits.log2 := rfl
      rw [hpow]
      push_cast
      rfl
    rw [hcast]
    exact pow_le_pow_left₀ (by norm_num) (by norm_num) _
  have hexponent : (10 : ℚ) ^ exponent ≤ (10 ^ (402 + digits.log2))⁻¹ := by
    rw [← zpow_natCast, ← zpow_neg]
    exact zpow_le_zpow_right₀ (by norm_num) (by push_cast; omega)
  have hpow : (0 : ℚ) < 10 ^ exponent := zpow_pos (by norm_num) _
  have hten : (0 : ℚ) < 10 ^ (402 + digits.log2) := pow_pos (by norm_num) _
  have hproduct : (2 : ℚ) * twoPow (1 + digits.log2) * twoPow 1074 ≤ 10 ^ (402 + digits.log2) := by
    rw [pow_add, twoPow_add_rat]
    have hmul := mul_le_mul hbound hpowers (twoPow_pos_rat _).le (pow_nonneg (by norm_num) _)
    calc (2 : ℚ) * (twoPow 1 * twoPow digits.log2) * twoPow 1074
        = 2 * twoPow 1 * twoPow 1074 * twoPow digits.log2 := by ring
      _ ≤ 10 ^ 402 * 10 ^ digits.log2 := hmul
  calc 2 * ((digits : ℚ) * 10 ^ exponent * twoPow 1074)
      = digits * (2 * 10 ^ exponent * twoPow 1074) := by ring
    _ < twoPow (1 + digits.log2) * (2 * 10 ^ exponent * twoPow 1074) :=
      mul_lt_mul_of_pos_right hdigits (mul_pos (mul_pos two_pos hpow) hunit)
    _ = 2 * twoPow (1 + digits.log2) * twoPow 1074 * 10 ^ exponent := by ring
    _ ≤ 10 ^ (402 + digits.log2) * (10 ^ (402 + digits.log2))⁻¹ :=
      mul_le_mul hproduct hexponent hpow.le hten.le
    _ = 1 := mul_inv_cancel₀ hten.ne'

/-- The double of a numeral is the nearest one to its value, at any length. -/
theorem nearest_toBinary64 (d : Decimal) : Nearest d.value d.toBinary64 := by
  have hunit := twoPow_pos_rat 1074
  have hpow : (0 : ℚ) < 10 ^ d.exponent := zpow_pos (by norm_num) _
  have hnonneg : (0 : ℚ) ≤ d.digits * 10 ^ d.exponent * twoPow 1074 :=
    mul_nonneg (mul_nonneg (Nat.cast_nonneg _) hpow.le) hunit.le
  have hvalue : d.value =
      signed d.negative (d.digits * 10 ^ d.exponent * twoPow 1074 / twoPow 1074) := by
    rw [Decimal.value, mul_div_cancel_right₀ _ hunit.ne']
  unfold Decimal.toBinary64 Decimal.round
  split
  · rename_i hzero
    rw [hvalue]
    apply (roundsTo_zero _ hnonneg _).nearest hnonneg
    rw [hzero, Nat.cast_zero, zero_mul, zero_mul, mul_zero]
    exact one_pos
  · rename_i hdigits
    split
    · rename_i hlarge
      rw [hvalue]
      exact nearest_infinity _ _ (Decimal.large_units _ _ hdigits hlarge)
    · split
      · rename_i hsmall
        rw [hvalue]
        exact (roundsTo_zero _ hnonneg (Decimal.small_units _ _ hsmall)).nearest hnonneg _
      · have hratio := nearest_ofRatio d.negative d.ratio.1 d.ratio.2 d.ratio_pos
        rw [d.cast_ratio] at hratio
        exact hratio

end Fieldwise.Number
