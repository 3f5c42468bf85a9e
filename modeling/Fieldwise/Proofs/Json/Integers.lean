import Fieldwise.Proofs.Bounds
import Fieldwise.Proofs.Json.RoundTrip
import Fieldwise.Proofs.Number.Rounding

/-!
# JSON integers as values

An integer literal is read into a number of 64 bits where one holds it, and is written back as
the literal. Any other becomes a double, a long one as the rounded product of its leading digits
and a power of ten. No rounding passes a power of two, so the double stays beyond the range of
signed numbers and saturates as the integer itself does.
-/

namespace Fieldwise

open Number (Binary64 Finite Nearest WrittenInteger tenPow twoPow)

namespace Json

/-! ### Digits of a long integer -/

/-- What is taken of digits that follow a significand, and the number of digits left out: nothing
is left out but what would pass 64 bits. -/
structure Absorbed (significand : Nat) (cs : List Char) (taken : Nat × Nat) : Prop where
  lt : taken.1 < 18446744073709551616
  le_value : taken.1 * tenPow taken.2 ≤ Nat.ofDigitChars 10 cs significand
  whole : taken.2 = 0 → taken.1 = Nat.ofDigitChars 10 cs significand
  full : taken.2 ≠ 0 → 18446744073709551616 ≤ 10 * taken.1 + 9

theorem absorb_absorbed (cs : List Char) (hdigits : ∀ c ∈ cs, c.isDigit = true)
    (significand : Nat) (h : significand < 18446744073709551616) :
    Absorbed significand cs (absorb significand cs) := by
  induction cs generalizing significand with
  | nil => exact ⟨h, (Nat.mul_one significand).le, fun _ => rfl, fun hleft => absurd rfl hleft⟩
  | cons c cs ih =>
    have hrange := Number.toNat_of_isDigit c (hdigits c (List.mem_cons_self ..))
    have hzero : '0'.toNat = 48 := rfl
    have hvalue : Nat.ofDigitChars 10 (c :: cs) significand =
        Nat.ofDigitChars 10 cs (10 * significand + (c.toNat - '0'.toNat)) := Nat.ofDigitChars_cons
    rw [absorb]
    split
    · rename_i hnext
      have htaken := ih (fun d hd => hdigits d (List.mem_cons_of_mem _ hd)) _ hnext
      exact ⟨htaken.lt, hvalue ▸ htaken.le_value, hvalue ▸ htaken.whole, htaken.full⟩
    · rename_i hnext
      refine ⟨h, ?_, fun hleft => absurd hleft (Nat.succ_ne_zero _), fun _ => by omega⟩
      have hpow : 10 ^ cs.length = tenPow cs.length := rfl
      rw [hvalue, Nat.ofDigitChars_eq_ofDigitChars_zero, hpow]
      calc significand * tenPow (cs.length + 1)
          = tenPow cs.length * (10 * significand) := by
            rw [Number.tenPow_succ]
            ring
        _ ≤ tenPow cs.length * (10 * significand + (c.toNat - '0'.toNat)) :=
          Nat.mul_le_mul_left _ (Nat.le_add_right _ _)
        _ ≤ _ := Nat.le_add_right _ _

theorem Absorbed.of_large {cs : List Char} {taken : Nat × Nat} (h : Absorbed 0 cs taken)
    (hlarge : twoPow 64 ≤ Nat.ofDigitChars 10 cs 0) :
    twoPow 60 ≤ taken.1 ∧ taken.1 < twoPow 64 ∧ taken.2 ≠ 0 := by
  have hlow : twoPow 60 = 1152921504606846976 := rfl
  have hhigh : twoPow 64 = 18446744073709551616 := rfl
  have hlt := h.lt
  have hleft : taken.2 ≠ 0 := by
    intro hleft
    have hwhole := h.whole hleft
    omega
  have hfull := h.full hleft
  exact ⟨by omega, by omega, hleft⟩

/-! ### Rounded products -/

theorem scaled_eq_some_iff (x : Binary64) (hx : x.isZero = false) (exponent steps : Nat)
    (y : Binary64) : scaled x exponent (steps + 1) = some y ↔
      exponent ≤ 308 ∧ y = x.mul (powerOfTen exponent) ∧ ∀ negative, y ≠ .infinity negative := by
  have hnonneg : (0 : Int) ≤ exponent := Int.natCast_nonneg _
  rw [scaled, Int.natAbs_natCast, hx]
  by_cases hexponent : exponent ≤ 308
  · simp only [hexponent, hnonneg, ↓reduceIte, true_and]
    split
    · rename_i negative hproduct
      rw [hproduct]
      constructor
      · intro h
        cases h
      · intro ⟨hy, hfinite⟩
        exact absurd hy (hfinite negative)
    · rename_i hfinite
      constructor
      · intro h
        cases h
        exact ⟨rfl, hfinite⟩
      · intro ⟨hy, _⟩
        rw [hy]
  · simp only [hexponent, hnonneg, Bool.false_eq_true, ↓reduceIte, false_and, reduceCtorEq]

theorem exists_ofNat_word (n : Nat) (h : n < twoPow 64) :
    ∃ x, Binary64.ofNat n = .finite x ∧ Nearest n (.finite x) := by
  have hlimit : twoPow 64 < 18014398509481983 * twoPow 970 := by decide +kernel
  exact Number.exists_ofNat n (h.trans hlimit)

theorem exists_powerOfTen (n : Nat) (hpos : n ≠ 0) (hn : n ≤ 308) :
    ∃ b : Finite, powerOfTen n = .finite b ∧ Nearest (tenPow n) (.finite b) ∧
      (twoPow 3 : ℚ) ≤ b.value := by
  have hlimit : tenPow 308 < 18014398509481983 * twoPow 970 := by decide +kernel
  have hmono := Number.tenPow_le n 308 hn
  have hlow : twoPow 3 ≤ tenPow n := by
    have hfirst : twoPow 3 ≤ tenPow 1 := by decide
    exact hfirst.trans (Number.tenPow_le 1 n (Nat.one_le_iff_ne_zero.mpr hpos))
  obtain ⟨b, hb, hnearest⟩ := Number.exists_ofNat (tenPow n) (hmono.trans_lt hlimit)
  exact ⟨b, hb, hnearest, hnearest.twoPow_le (by decide) (by exact_mod_cast hlow)⟩

section

variable {s left : Nat} (hlow : twoPow 60 ≤ s) (hhigh : s < twoPow 64) (hleft : left ≠ 0)
include hlow hhigh

theorem exists_significand : ∃ a : Finite, (twoPow 60 : ℚ) ≤ a.value ∧ a.value ≤ twoPow 64 ∧
    ∀ y, scaled (.ofNat s) left 4 = some y ↔ left ≤ 308 ∧
      y = (Binary64.finite a).mul (powerOfTen left) ∧ ∀ negative, y ≠ .infinity negative := by
  have hpos := Number.twoPow_pos_rat 60
  obtain ⟨a, ha, hnearest⟩ := exists_ofNat_word s hhigh
  have halow : (twoPow 60 : ℚ) ≤ a.value :=
    hnearest.twoPow_le (by decide) (by exact_mod_cast hlow)
  have hahigh : a.value ≤ twoPow 64 :=
    hnearest.le_twoPow (by decide) (by exact_mod_cast hhigh.le)
  refine ⟨a, halow, hahigh, ?_⟩
  rw [ha]
  exact scaled_eq_some_iff _ (a.isZero_of_pos (by linarith)) left 3

include hleft

/-- Rounding takes no number of more than 64 bits below `2 ^ 63`: one factor is `2 ^ 60` at least,
and the other is 8. -/
theorem le_value_of_scaled (y : Binary64) (h : scaled (.ofNat s) left 4 = some y) :
    ∃ x : Finite, y = .finite x ∧ (twoPow 63 : ℚ) ≤ x.value := by
  obtain ⟨a, halow, -, hscaled⟩ := exists_significand hlow hhigh
  obtain ⟨hexponent, hy, hfinite⟩ := (hscaled y).mp h
  obtain ⟨b, hb, -, hblow⟩ := exists_powerOfTen left hleft hexponent
  rw [hb] at hy
  have hnearest := Number.nearest_mul a b y hy.symm
  have hproduct : (twoPow 63 : ℚ) ≤ a.value * b.value := by
    have hsplit := Number.twoPow_add_rat 60 3
    have hpos := Number.twoPow_pos_rat 60
    rw [hsplit]
    exact mul_le_mul halow hblow (Number.twoPow_pos_rat 3).le (by linarith)
  cases y with
  | nan => exact hnearest.elim
  | infinity negative => exact absurd rfl (hfinite negative)
  | finite x => exact ⟨x, rfl, hnearest.twoPow_le (by decide) hproduct⟩

theorem exists_scaled (hvalue : s * tenPow left < tenPow 300) :
    ∃ y, scaled (.ofNat s) left 4 = some y := by
  obtain ⟨a, halow, hahigh, hscaled⟩ := exists_significand hlow hhigh
  have hten : tenPow left < tenPow 282 := by
    have hfirst : tenPow 18 ≤ twoPow 60 := by decide
    have hsplit := Number.tenPow_add 18 282
    have hproduct : tenPow 18 * tenPow left ≤ s * tenPow left :=
      Nat.mul_le_mul_right _ (hfirst.trans hlow)
    apply Nat.lt_of_mul_lt_mul_left (a := tenPow 18)
    rw [← hsplit]
    exact hproduct.trans_lt hvalue
  have hexponent : left ≤ 308 := by
    by_contra hbeyond
    have hmono := Number.tenPow_le 282 left (by omega)
    exact absurd hten (Nat.not_lt.mpr hmono)
  obtain ⟨b, hb, hbnearest, hblow⟩ := exists_powerOfTen left hleft hexponent
  have hbhigh : b.value ≤ twoPow 940 := by
    have hbits : tenPow 282 ≤ twoPow 940 := by decide +kernel
    exact hbnearest.le_twoPow (by decide) (by exact_mod_cast hten.le.trans hbits)
  have hlimit : |a.value * b.value| < Number.finiteLimit := by
    have hbits : twoPow 64 * twoPow 940 < 18014398509481983 * twoPow 970 := by decide +kernel
    have hapos := Number.twoPow_pos_rat 60
    have hbpos := Number.twoPow_pos_rat 3
    have hproduct : a.value * b.value ≤ (twoPow 64 * twoPow 940 : Nat) := by
      rw [Nat.cast_mul]
      exact mul_le_mul hahigh hbhigh (by linarith) (Number.twoPow_pos_rat 64).le
    rw [abs_of_nonneg (mul_nonneg (by linarith) (by linarith))]
    exact hproduct.trans_lt (Number.natCast_lt_finiteLimit _ hbits)
  -- The product stays a name, or its units would be computed.
  generalize hy : Binary64.mul (.finite a) (.finite b) = y
  obtain ⟨x, hx⟩ := Number.exists_finite_of_nearest (Number.nearest_mul a b y hy) hlimit
  refine ⟨y, (hscaled y).mpr ⟨hexponent, ?_, ?_⟩⟩
  · rw [hb, hy]
  · intro negative hinfinite
    cases hx.symm.trans hinfinite

end

/-! ### Integers beyond 64 bits -/

section

variable {digits : List Char} (hdigits : ∀ c ∈ digits, c.isDigit = true) (negative : Bool)
include hdigits

/-- An integer that neither a signed nor an unsigned number of 64 bits holds is a finite double no
nearer to zero than `2 ^ 63`. -/
theorem integerOf_beyond (h : twoPow 64 ≤ Nat.ofDigitChars 10 digits 0 ∨
      negative = true ∧ twoPow 63 < Nat.ofDigitChars 10 digits 0)
    (j : Json) (hj : integerOf negative digits = some j) :
    ∃ x : Finite, (twoPow 63 : ℚ) ≤ x.value ∧
      j = .float (if negative then (Binary64.finite x).neg else .finite x) := by
  have hwords : twoPow 64 = 18446744073709551616 ∧ twoPow 63 = 9223372036854775808 := ⟨rfl, rfl⟩
  by_cases hlarge : twoPow 64 ≤ Nat.ofDigitChars 10 digits 0
  · have htaken := (absorb_absorbed digits hdigits 0 (by decide)).of_large hlarge
    rw [hwords.1] at hlarge
    simp only [integerOf, hlarge, ↓reduceIte, floatOf, Option.map_eq_some_iff] at hj
    obtain ⟨y, hy, rfl⟩ := hj
    obtain ⟨x, rfl, hx⟩ := le_value_of_scaled htaken.1 htaken.2.1 htaken.2.2 y hy
    exact ⟨x, hx, rfl⟩
  · obtain ⟨rfl, hsmall⟩ := h.resolve_left hlarge
    have hmost : ¬18446744073709551616 ≤ Nat.ofDigitChars 10 digits 0 := by omega
    have hleast : 9223372036854775808 < Nat.ofDigitChars 10 digits 0 := by omega
    simp only [integerOf, hmost, hleast, or_true, ↓reduceIte, Option.some.injEq] at hj
    obtain ⟨x, hx, hnearest⟩ := exists_ofNat_word _ (Nat.not_le.mp hlarge)
    rw [hx] at hj
    exact ⟨x, hnearest.twoPow_le (by decide) (by exact_mod_cast hsmall.le), hj.symm⟩

theorem exists_integerOf (h : Nat.ofDigitChars 10 digits 0 < tenPow 300) :
    ∃ j, integerOf negative digits = some j := by
  have hword : twoPow 64 = 18446744073709551616 := rfl
  by_cases hlarge : twoPow 64 ≤ Nat.ofDigitChars 10 digits 0
  · have habsorbed := absorb_absorbed digits hdigits 0 (by decide)
    have htaken := habsorbed.of_large hlarge
    obtain ⟨y, hy⟩ :=
      exists_scaled htaken.1 htaken.2.1 htaken.2.2 (habsorbed.le_value.trans_lt h)
    rw [hword] at hlarge
    simp only [integerOf, hlarge, ↓reduceIte, floatOf, hy, Option.map_some]
    exact ⟨_, rfl⟩
  · rw [hword] at hlarge
    simp only [integerOf, hlarge, ↓reduceIte]
    split_ifs <;> exact ⟨_, rfl⟩

end

/-! ### Literals -/

/-- The integers that JSON writes: no plus sign, and no zero before another digit. -/
def IsLiteral (n : WrittenInteger) : Prop :=
  n.sign ≠ .plus ∧ ¬Number.LeadingZero n.digits.chars

instance (n : WrittenInteger) : Decidable (IsLiteral n) := inferInstanceAs (Decidable (_ ∧ _))

theorem readValue_chars (room fuel : Nat) (n : WrittenInteger) :
    readValue room (fuel + 1) n.chars = if IsLiteral n then
      (integerOf n.sign.isNegative n.digits.chars).map fun j => (j, []) else none := by
  by_cases hplus : n.sign = .plus
  · rw [if_neg fun h => h.1 hplus, WrittenInteger.chars, hplus]
    rfl
  · have hliteral : IsLiteral n ↔ ¬Number.LeadingZero n.digits.chars :=
      ⟨And.right, fun hzero => ⟨hplus, hzero⟩⟩
    have hnumber : readValue room (fuel + 1) n.chars = readNumber n.chars := by
      obtain ⟨c, cs, hcons, hdigit, -⟩ := n.digits.exists_cons
      rw [n.chars_of_sign hplus, hcons]
      cases n.sign.isNegative with
      | false => exact readValue_number fuel c cs (.inl hdigit)
      | true => exact readValue_number fuel '-' (c :: cs) (.inr rfl)
    have hdigits := readNumber_digits endsNumber_nil n.sign.isNegative n.digits.ne_nil
      n.digits.isDigit_of_mem
    rw [List.append_nil] at hdigits
    rw [hnumber, n.chars_of_sign hplus, hdigits]
    simp only [hliteral, ite_not]

theorem ofText?_chars (n : WrittenInteger) : ofText? (String.ofList n.chars) =
    if IsLiteral n then integerOf n.sign.isNegative n.digits.chars else none := by
  rw [ofText?, String.toList_ofList, readValue_chars]
  split
  · cases integerOf n.sign.isNegative n.digits.chars with
    | none => rfl
    | some j => rfl
  · rfl

/-- A literal is the decimal form of its number, unless it writes zero with a minus sign. -/
theorem IsLiteral.chars_eq {n : WrittenInteger} (h : IsLiteral n)
    (hzero : n.chars ≠ "-0".toList) : n.chars = Number.integer n.value := by
  have hchars := n.chars_of_sign h.1
  have hdigits : n.digits.chars = Number.natural n.digits.value :=
    (Number.natural_ofDigitChars _ n.digits.ne_nil n.digits.isDigit_of_mem h.2).symm
  rw [hdigits] at hchars
  rw [hchars] at hzero ⊢
  rw [Number.integer, n.natAbs_value]
  rcases n.value_sides with ⟨hsign, hvalue⟩ | ⟨hsign, hvalue⟩
  · rw [hsign] at hzero ⊢
    have hpos : n.digits.value ≠ 0 := by
      intro hvalue
      rw [hvalue] at hzero
      exact hzero rfl
    have hneg : n.value < 0 := by omega
    rw [if_pos hneg]
    rfl
  · have hnonneg : ¬n.value < 0 := by omega
    rw [hsign, if_neg hnonneg]
    rfl

end Json

/-! ### Values -/

open Json (IsLiteral)

section

variable (x : Finite) (hx : (twoPow 63 : ℚ) ≤ x.value)
include hx

/-- Doubles that the signed range does not hold saturate like the integers beyond it. -/
theorem toInteger_above (z : Int) (hz : (twoPow 63 : Int) ≤ z) :
    (Value.float (.finite x)).toInteger.map Int64.toInt = some (nearest64 z) := by
  have htruncate := x.le_truncate (twoPow 63) (Number.twoPow_pos 63) hx
  rw [twoPow_sixty_three] at htruncate hz
  have hnearest : nearest64 x.truncate = nearest64 z := by
    rw [nearest64, nearest64, twoPow_sixty_three]
    omega
  rw [Value.toInteger, Option.map_some, toInt_ofIntClamp, hnearest]

theorem toInteger_below (z : Int) (hz : z ≤ -(twoPow 63 : Int)) :
    (Value.float (Binary64.finite x).neg).toInteger.map Int64.toInt = some (nearest64 z) := by
  have htruncate := x.le_truncate (twoPow 63) (Number.twoPow_pos 63) hx
  rw [twoPow_sixty_three] at htruncate hz
  have hnearest : nearest64 (-x.truncate) = nearest64 z := by
    rw [nearest64, nearest64, twoPow_sixty_three]
    omega
  rw [Binary64.neg, Value.toInteger, Option.map_some, toInt_ofIntClamp, x.truncate_neg, hnearest]

end

/-- The number of 64 bits that an integer is, a signed one where the integer fits. -/
inductive NumberForm (z : Int) : Value → Prop
  | int (n : Int64) (h : n.toInt = z) : NumberForm z (.int n)
  | uint (n : UInt64) (h : (n.toNat : Int) = z) (hlarge : (twoPow 63 : Int) ≤ z) :
      NumberForm z (.uint n)

theorem NumberForm.integerForm {z : Int} {v : Value} (h : NumberForm z v) : IntegerForm z v := by
  cases h with
  | int n hn => exact .int n hn
  | uint n hn _ => exact .uint n hn

/-- The decimal form of an integer of 64 bits is read as the integer. -/
theorem exists_numberForm (z : Int) (hlow : -(twoPow 63 : Int) ≤ z) (hhigh : z < twoPow 64) :
    ∃ v, NumberForm z v ∧
      (Json.ofText? (String.ofList (Number.integer z))).map Value.ofJson = some v := by
  by_cases hsigned : z < twoPow 63
  · have hk : (Int64.ofInt z).toInt = z := Int64.toInt_ofInt_of_le hlow hsigned
    have hread := Json.ofText?_toText (.int (Int64.ofInt z))
    rw [Json.toText, Json.compact, hk] at hread
    refine ⟨.int (Int64.ofInt z), .int _ hk, ?_⟩
    rw [hread]
    rfl
  · have hword : (twoPow 64 : Int) = 18446744073709551616 := rfl
    have hlarge := Int.not_lt.mp hsigned
    rw [hword] at hhigh
    rw [twoPow_sixty_three] at hsigned
    have hsize : UInt64.size = 18446744073709551616 := rfl
    have hk : (UInt64.ofNat z.toNat).toNat = z.toNat := UInt64.toNat_ofNat_of_lt' (by omega)
    have hcast : ((UInt64.ofNat z.toNat).toNat : Int) = z := by omega
    have hread := Json.ofText?_toText (.uint (UInt64.ofNat z.toNat) (by omega))
    have hwritten : Number.natural (UInt64.ofNat z.toNat).toNat = Number.integer z :=
      congrArg Number.integer hcast
    rw [Json.toText, Json.compact, hwritten] at hread
    refine ⟨.uint (UInt64.ofNat z.toNat), .uint _ hcast hlarge, ?_⟩
    rw [hread]
    rfl

/-- The minus sign of a zero makes it a double, which is zero as an integer. -/
theorem toInteger_minus_zero :
    ((Json.ofText? "-0").map Value.ofJson).bind Value.toInteger = some 0 := by
  decide +kernel

section

variable (n : WrittenInteger)

theorem exists_read_exact (h : IsLiteral n) (hlow : -(twoPow 63 : Int) ≤ n.value)
    (hhigh : n.value < twoPow 64) (hzero : n.chars ≠ "-0".toList) :
    ∃ v, (Json.ofText? (String.ofList n.chars)).map Value.ofJson = some v ∧
      NumberForm n.value v ∧ v.chars = n.chars := by
  have hchars := h.chars_eq hzero
  obtain ⟨v, hform, hread⟩ := exists_numberForm n.value hlow hhigh
  rw [← hchars] at hread
  exact ⟨v, hread, hform, hform.integerForm.chars.trans hchars.symm⟩

theorem toInteger_of_beyond (hbeyond : ¬(-(twoPow 63 : Int) ≤ n.value ∧ n.value < twoPow 64))
    (j : Json) (h : Json.integerOf n.sign.isNegative n.digits.chars = some j) :
    (Value.ofJson j).toInteger.map Int64.toInt = some (nearest64 n.value) := by
  have hwords : twoPow 64 = 18446744073709551616 ∧ twoPow 63 = 9223372036854775808 := ⟨rfl, rfl⟩
  rcases n.value_sides with ⟨hsign, hvalue⟩ | ⟨hsign, hvalue⟩
  · have hlarge : twoPow 63 < n.digits.value := by omega
    obtain ⟨x, hx, rfl⟩ :=
      Json.integerOf_beyond n.digits.isDigit_of_mem _ (.inr ⟨hsign, hlarge⟩) j h
    rw [hsign]
    exact toInteger_below x hx n.value (by omega)
  · have hlarge : twoPow 64 ≤ n.digits.value := by omega
    obtain ⟨x, hx, rfl⟩ := Json.integerOf_beyond n.digits.isDigit_of_mem _ (.inl hlarge) j h
    rw [hsign]
    exact toInteger_above x hx n.value (by omega)

theorem nearest64_of_read (v : Value)
    (h : (Json.ofText? (String.ofList n.chars)).map Value.ofJson = some v) :
    v.toInteger.map Int64.toInt = some (nearest64 n.value) := by
  by_cases hzero : n.chars = "-0".toList
  · have hvalue : n.value = 0 := by
      have hread := n.readInteger_chars
      rw [hzero] at hread
      exact (Option.some.inj hread).symm
    have htext : String.ofList "-0".toList = "-0" := rfl
    have hinteger := toInteger_minus_zero
    rw [hzero, htext] at h
    rw [h, Option.bind_some] at hinteger
    rw [hinteger, hvalue]
    rfl
  · obtain ⟨j, hj, rfl⟩ := Option.map_eq_some_iff.mp h
    rw [Json.ofText?_chars, Option.ite_none_right_eq_some] at hj
    by_cases hexact : -(twoPow 63 : Int) ≤ n.value ∧ n.value < twoPow 64
    · obtain ⟨v, hv, hform, -⟩ := exists_read_exact n hj.1 hexact.1 hexact.2 hzero
      have hsame : Value.ofJson j = v := Option.some.inj (h.symm.trans hv)
      rw [hsame, hform.integerForm.toInteger hexact.1 hexact.2, Option.map_some,
        toInt_ofIntClamp]
    · exact toInteger_of_beyond n hexact j hj.2

/-- An integer literal that JSON accepts counts as the nearest number of 64 bits, at any length.
No other text of an integer is accepted, and a literal below `10 ^ 300` is. In the range of 64 bits
it is a number of 64 bits, signed where it fits, that shows the literal; a zero with a minus sign is
a double. -/
theorem json_integer_keeps_value :
    let read := (Json.ofText? (String.ofList n.chars)).map Value.ofJson
    (∀ v, read = some v →
      IsLiteral n ∧ v.toInteger.map Int64.toInt = some (nearest64 n.value)) ∧
    (IsLiteral n → n.value.natAbs < tenPow 300 → ∃ v, read = some v) ∧
    (IsLiteral n → -(twoPow 63 : Int) ≤ n.value → n.value < twoPow 64 →
      n.chars ≠ "-0".toList →
      ∃ v, read = some v ∧ NumberForm n.value v ∧ v.chars = n.chars) := by
  intro read
  refine ⟨?_, ?_, exists_read_exact n⟩
  · intro v hv
    refine ⟨?_, nearest64_of_read n v hv⟩
    obtain ⟨j, hj, -⟩ := Option.map_eq_some_iff.mp hv
    rw [Json.ofText?_chars, Option.ite_none_right_eq_some] at hj
    exact hj.1
  · intro hliteral hvalue
    rw [n.natAbs_value] at hvalue
    obtain ⟨j, hj⟩ := Json.exists_integerOf n.digits.isDigit_of_mem n.sign.isNegative hvalue
    refine ⟨Value.ofJson j, ?_⟩
    have hread : Json.ofText? (String.ofList n.chars) = some j := by
      rw [Json.ofText?_chars, if_pos hliteral, hj]
    exact Option.map_eq_some_iff.mpr ⟨j, hread, rfl⟩

end

/-- Thirty digits after a minus sign count as the least number of 64 bits. -/
theorem long_json_integer_saturates :
    ∃ v, (Json.ofText? "-100000000000000000000000000000").map Value.ofJson = some v ∧
      v.toInteger.map Int64.toInt = some (-9223372036854775808) := by
  let n : WrittenInteger :=
    ⟨.minus, ⟨"100000000000000000000000000000".toList, by decide, by decide⟩⟩
  have hvalue : n.value = -100000000000000000000000000000 := by decide
  have hliteral : IsLiteral n := by decide
  have hsize : n.value.natAbs < tenPow 300 := by
    rw [hvalue]
    decide +kernel
  have hkeeps := json_integer_keeps_value n
  obtain ⟨v, hread⟩ := hkeeps.2.1 hliteral hsize
  have hsaturates := (hkeeps.1 v hread).2
  rw [hvalue] at hsaturates
  exact ⟨v, hread, hsaturates⟩

end Fieldwise
