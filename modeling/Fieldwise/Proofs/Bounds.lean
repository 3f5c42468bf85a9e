import Fieldwise.Proofs.Number.Written
import Fieldwise.Proofs.TextForms

/-!
# Bounds on integers

A bound is compared with the number of 64 bits nearest to the integer that a value holds. So it
is compared with the integer itself, unless the bound is the end of the range that the integer
lies beyond. Text holds an integer of at most 128 bits, with blanks around it; to a longer one a
bound does not apply.
-/

namespace Fieldwise

open Number (WrittenInteger twoPow)

/-! ### The range of 64 bits -/

/-- The number of 64 bits nearest to an integer. -/
def nearest64 (z : Int) : Int := max (-(twoPow 63 : Int)) (min z (twoPow 63 - 1))

theorem twoPow_sixty_three : (twoPow 63 : Int) = 9223372036854775808 := rfl

theorem toInt_ofIntClamp (z : Int) : (Int64.ofIntClamp z).toInt = nearest64 z := by
  have hleast : Int64.minValue.toInt = -9223372036854775808 := rfl
  have hmost : Int64.maxValue.toInt = 9223372036854775807 := rfl
  unfold nearest64
  rw [twoPow_sixty_three]
  by_cases hlow : Int64.minValue.toInt ≤ z
  · by_cases hhigh : z ≤ Int64.maxValue.toInt
    · rw [Int64.toInt_ofIntClamp hlow hhigh]
      omega
    · rw [Int64.ofIntClamp, dif_pos hlow, dif_neg hhigh]
      omega
  · rw [Int64.ofIntClamp, dif_neg hlow]
    omega

theorem nearest64_lt_iff (z : Int) (bound : Int64) :
    nearest64 z < bound.toInt ↔ z < bound.toInt ∧ bound ≠ Int64.minValue := by
  have hleast : Int64.minValue.toInt = -9223372036854775808 := rfl
  have hlow : -9223372036854775808 ≤ bound.toInt := Int64.le_toInt bound
  have hhigh : bound.toInt < 9223372036854775808 := Int64.toInt_lt bound
  rw [nearest64, twoPow_sixty_three, ne_eq, ← Int64.toInt_inj]
  omega

theorem lt_nearest64_iff (z : Int) (bound : Int64) :
    bound.toInt < nearest64 z ↔ bound.toInt < z ∧ bound ≠ Int64.maxValue := by
  have hmost : Int64.maxValue.toInt = 9223372036854775807 := rfl
  have hlow : -9223372036854775808 ≤ bound.toInt := Int64.le_toInt bound
  have hhigh : bound.toInt < 9223372036854775808 := Int64.toInt_lt bound
  rw [nearest64, twoPow_sixty_three, ne_eq, ← Int64.toInt_inj]
  omega

/-! ### Checks of bounds -/

section

variable {v : Value} {z : Int} (hvalue : v.toInteger = some (Int64.ofIntClamp z))
  (hfilled : v.isEmpty = false) (bound : Int64) (options : Options) (field : String)
  (override : Option String)

include hvalue hfilled

theorem value_check_min :
    (Constraints.check options field [⟨.min bound, override⟩] (some v)).value =
      if nearest64 z < bound.toInt then
        [⟨field, override.getD (Rule.min bound).template, "min"⟩] else [] := by
  have happlies : ¬(Rule.min bound).IsMismatch v := by simp [Rule.IsMismatch, hvalue]
  have hholds : (Rule.min bound).Holds v ↔ ¬nearest64 z < bound.toInt := by
    simp [Rule.Holds, hvalue, Int64.le_iff_toInt_le, toInt_ofIntClamp]
  rw [Constraints.value_check_alone options field _ override v hfilled happlies]
  simp only [hholds, ite_not]
  rfl

theorem value_check_max :
    (Constraints.check options field [⟨.max bound, override⟩] (some v)).value =
      if bound.toInt < nearest64 z then
        [⟨field, override.getD (Rule.max bound).template, "max"⟩] else [] := by
  have happlies : ¬(Rule.max bound).IsMismatch v := by simp [Rule.IsMismatch, hvalue]
  have hholds : (Rule.max bound).Holds v ↔ ¬bound.toInt < nearest64 z := by
    simp [Rule.Holds, hvalue, Int64.le_iff_toInt_le, toInt_ofIntClamp]
  rw [Constraints.value_check_alone options field _ override v hfilled happlies]
  simp only [hholds, ite_not]
  rfl

end

/-! ### Integers in text -/

theorem toInteger_text (n : WrittenInteger) (before after : List Char)
    (hbefore : Text.Blank before) (hafter : Text.Blank after) :
    (Value.text (String.ofList (before ++ n.chars ++ after))).toInteger =
      if -(twoPow 127 : Int) ≤ n.value ∧ n.value < twoPow 127 then
        some (Int64.ofIntClamp n.value) else none := by
  rw [Value.toInteger, String.toList_ofList, n.trim_padded_chars before after hbefore hafter,
    Number.readSigned, n.readInteger_chars]
  simp only [Option.filter, decide_eq_true_eq, Nat.add_one_sub_one]
  split
  · rfl
  · rfl

theorem isEmpty_text (n : WrittenInteger) (before after : List Char) :
    (Value.text (String.ofList (before ++ n.chars ++ after))).isEmpty = false := by
  apply Value.isEmpty_text_append
  intro hnil
  have hchars : n.sign.chars ++ n.digits.chars = [] := hnil
  exact n.digits.ne_nil (List.append_eq_nil_iff.mp hchars).2

/-- An integer of at most 128 bits in text counts as the nearest number of 64 bits, whatever its
sign, its leading zeros and the blanks around it, and bounds apply to it. A longer one is no
number, and bounds do not apply. -/
theorem integer_text_saturates (n : WrittenInteger) (before after : List Char)
    (hbefore : Text.Blank before) (hafter : Text.Blank after) (bound : Int64)
    (options : Options) (field : String) (override : Option String) :
    let v := Value.text (String.ofList (before ++ n.chars ++ after))
    let asked := fun rule => (Constraints.check options field [⟨rule, override⟩] (some v)).value
    (-(twoPow 127 : Int) ≤ n.value ∧ n.value < twoPow 127 →
      v.toInteger.map Int64.toInt = some (nearest64 n.value) ∧
      asked (.min bound) = (if nearest64 n.value < bound.toInt then
        [⟨field, override.getD (Rule.min bound).template, "min"⟩] else []) ∧
      asked (.max bound) = (if bound.toInt < nearest64 n.value then
        [⟨field, override.getD (Rule.max bound).template, "max"⟩] else [])) ∧
    (¬(-(twoPow 127 : Int) ≤ n.value ∧ n.value < twoPow 127) →
      v.toInteger = none ∧
      ∀ rule, rule = .min bound ∨ rule = .max bound →
        asked rule = if options.mismatch = .report then
          [⟨field, "Must be a number", "type_mismatch"⟩] else []) := by
  intro v asked
  have hfilled : v.isEmpty = false := isEmpty_text n before after
  have hread := toInteger_text n before after hbefore hafter
  constructor
  · intro hfits
    rw [if_pos hfits] at hread
    refine ⟨?_, ?_, ?_⟩
    · rw [hread, Option.map_some, toInt_ofIntClamp]
    · exact value_check_min hread hfilled bound options field override
    · exact value_check_max hread hfilled bound options field override
  · intro hlong
    rw [if_neg hlong] at hread
    refine ⟨hread, ?_⟩
    intro rule hrule
    have hmismatch : rule.IsMismatch v := by
      rcases hrule with rfl | rfl
      · exact hread
      · exact hread
    exact Constraints.value_check_mismatch options field rule override v hfilled hmismatch

/-- Twice the range of 64 bits, with a sign, leading zeros and blanks. -/
theorem padded_integer_saturates :
    let v := Value.text "\t+00018446744073709551616 "
    v.toInteger.map Int64.toInt = some 9223372036854775807 ∧
      (Constraints.check {} "n" [⟨.max 5, none⟩] (some v)).value =
        [⟨"n", "Must be at most 5", "max"⟩] := by
  let n : WrittenInteger := ⟨.plus, ⟨"00018446744073709551616".toList, by decide, by decide⟩⟩
  have hblank : Text.Blank ['\t'] ∧ Text.Blank [' '] := by decide
  have hvalue : n.value = 18446744073709551616 := by decide
  have hfits : -(twoPow 127 : Int) ≤ n.value ∧ n.value < twoPow 127 := by
    rw [hvalue]
    decide
  have hsaturates :=
    (integer_text_saturates n ['\t'] [' '] hblank.1 hblank.2 5 {} "n" none).1 hfits
  rw [hvalue] at hsaturates
  exact ⟨hsaturates.1, hsaturates.2.2⟩

/-- The least integer of 129 bits is no number. -/
theorem long_integer_not_read :
    ¬∀ (n : WrittenInteger) (before after : List Char), Text.Blank before → Text.Blank after →
      (Value.text (String.ofList (before ++ n.chars ++ after))).toInteger.map Int64.toInt =
        some (nearest64 n.value) := by
  intro hsaturates
  have hblank : Text.Blank [] := by decide
  have hread := hsaturates
    ⟨.none, ⟨"170141183460469231731687303715884105728".toList, by decide, by decide⟩⟩ [] []
    hblank hblank
  have hnone : (Value.text "170141183460469231731687303715884105728").toInteger = none := by
    decide
  have hcontra : (none : Option Int) = some _ := (congrArg _ hnone).symm.trans hread
  cases hcontra

/-! ### Integers in values -/

/-- Bounds compare the integer that a value holds, with one exception: the greatest number of 64
bits as an upper bound finds nothing wrong with an integer beyond it. -/
theorem bounds_compare_integers (z : Int) (hz : z ≠ 0) (hlow : -(twoPow 63 : Int) ≤ z)
    (hhigh : z < twoPow 64) (v : Value) (hv : IntegerForm z v) (bound : Int64)
    (options : Options) (field : String) (override : Option String) :
    (Constraints.check options field [⟨.min bound, override⟩] (some v)).value =
        (if z < bound.toInt then
          [⟨field, override.getD (Rule.min bound).template, "min"⟩] else []) ∧
      (Constraints.check options field [⟨.max bound, override⟩] (some v)).value =
        (if bound.toInt < z ∧ bound ≠ Int64.maxValue then
          [⟨field, override.getD (Rule.max bound).template, "max"⟩] else []) := by
  have hread := hv.toInteger hlow hhigh
  have hfilled := hv.isEmpty hz
  constructor
  · have hexact : nearest64 z < bound.toInt ↔ z < bound.toInt := by
      rw [nearest64_lt_iff]
      constructor
      · rintro ⟨hlt, _⟩
        exact hlt
      · intro hlt
        refine ⟨hlt, ?_⟩
        rintro rfl
        exact absurd hlt (not_lt.mpr hlow)
    rw [value_check_min hread hfilled bound options field override]
    simp only [hexact]
  · rw [value_check_max hread hfilled bound options field override]
    simp only [lt_nearest64_iff]

theorem unsigned_beyond_bound :
    (Constraints.check {} "n" [⟨.max 9223372036854775806, none⟩]
      (some (.uint 18446744073709551615))).value =
        [⟨"n", "Must be at most 9223372036854775806", "max"⟩] := by
  have hform : IntegerForm 18446744073709551615 (.uint 18446744073709551615) := .uint _ rfl
  exact (bounds_compare_integers 18446744073709551615 (by decide) (by decide) (by decide) _ hform
    9223372036854775806 {} "n" none).2

/-- The least number that no signed number holds keeps the greatest upper bound. -/
theorem unsigned_within_greatest_bound :
    ¬∀ (n : UInt64) (bound : Int64), n ≠ 0 →
      ((Constraints.check {} "n" [⟨.max bound, none⟩] (some (.uint n))).value ≠ [] ↔
        bound.toInt < n.toNat) := by
  intro hexact
  have hnothing : (Constraints.check {} "n" [⟨.max Int64.maxValue, none⟩]
      (some (.uint 9223372036854775808))).value = [] := by
    decide
  have hreported := (hexact 9223372036854775808 Int64.maxValue (by decide)).mpr (by decide)
  exact hreported hnothing

end Fieldwise
