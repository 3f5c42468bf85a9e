import Fieldwise.Format
import Fieldwise.Proofs.Numerals
import Mathlib.Algebra.Field.Rat
import Mathlib.Tactic.FieldSimp
import Mathlib.Tactic.Ring

/-!
# Numbers as they are written

A number is written as an optional sign, digits, and perhaps a point with digits after it; an
integer has no point. What the digits stand for is a rational number, whatever their count. The
texts of numbers are those that the format of numbers accepts, and the readers give what is
written.
-/

namespace Fieldwise.Number

/-! ### Signs and digits -/

/-- What may stand before the digits of a number. -/
inductive Sign
  | none
  | plus
  | minus
deriving DecidableEq

namespace Sign

def chars : Sign → List Char
  | none => []
  | plus => ['+']
  | minus => ['-']

def isNegative : Sign → Bool
  | minus => true
  | _ => false

end Sign

/-- One or more digits; zeros may stand before the others. -/
structure Digits where
  chars : List Char
  ne_nil : chars ≠ []
  all_isDigit : chars.all Char.isDigit = true

def Digits.value (ds : Digits) : Nat := Nat.ofDigitChars 10 ds.chars 0

theorem Digits.isDigit_of_mem (ds : Digits) (c : Char) (h : c ∈ ds.chars) : c.isDigit = true :=
  List.all_eq_true.mp ds.all_isDigit c h

theorem Digits.readNatural_chars (ds : Digits) : readNatural ds.chars = some ds.value := by
  simp only [readNatural, ne_eq, ds.ne_nil, not_false_eq_true, ds.all_isDigit, and_self,
    ↓reduceIte, value]

/-- Digits begin with no sign. -/
theorem Digits.exists_cons (ds : Digits) :
    ∃ c cs, ds.chars = c :: cs ∧ c.isDigit = true ∧ c ≠ '-' ∧ c ≠ '+' := by
  cases hchars : ds.chars with
  | nil => exact absurd hchars ds.ne_nil
  | cons c cs =>
    have hdigit : c.isDigit = true := ds.isDigit_of_mem c (hchars ▸ List.mem_cons_self ..)
    refine ⟨c, cs, rfl, hdigit, ?_, ?_⟩
    · rintro rfl
      exact absurd hdigit (by decide)
    · rintro rfl
      exact absurd hdigit (by decide)

theorem Digits.takeWhile_isDigit (ds : Digits) : ds.chars.takeWhile Char.isDigit = ds.chars :=
  List.takeWhile_eq_self_iff.mpr ds.isDigit_of_mem

theorem Digits.dropWhile_isDigit (ds : Digits) : ds.chars.dropWhile Char.isDigit = [] :=
  List.dropWhile_eq_nil_iff.mpr ds.isDigit_of_mem

theorem Digits.notMem_point (ds : Digits) : '.' ∉ ds.chars := by
  intro hmem
  exact absurd (ds.isDigit_of_mem '.' hmem) (by decide)

theorem isDigits_iff (cs : List Char) :
    Format.isDigits cs = true ↔ ∃ ds : Digits, ds.chars = cs := by
  simp only [Format.isDigits, Bool.and_eq_true, bne_iff_ne]
  constructor
  · rintro ⟨hne, hall⟩
    exact ⟨⟨cs, hne, hall⟩, rfl⟩
  · rintro ⟨ds, rfl⟩
    exact ⟨ds.ne_nil, ds.all_isDigit⟩

theorem readSign_chars (s : Sign) (ds : Digits) (rest : List Char) :
    readSign (s.chars ++ (ds.chars ++ rest)) = (s.isNegative, ds.chars ++ rest) := by
  obtain ⟨c, cs, hcons, _, hminus, hplus⟩ := ds.exists_cons
  rw [hcons]
  cases s with
  | none => simp [Sign.chars, Sign.isNegative, readSign, hminus, hplus]
  | plus => rfl
  | minus => rfl

/-- A sign comes off the beginning of any text. -/
theorem exists_sign (cs : List Char) : ∃ s : Sign, cs = s.chars ++ (readSign cs).2 := by
  unfold readSign
  split
  · exact ⟨.minus, rfl⟩
  · exact ⟨.plus, rfl⟩
  · exact ⟨.none, rfl⟩

/-! ### Integers -/

/-- An integer as it is written. -/
structure WrittenInteger where
  sign : Sign
  digits : Digits

namespace WrittenInteger

def chars (n : WrittenInteger) : List Char := n.sign.chars ++ n.digits.chars

def value (n : WrittenInteger) : Int :=
  if n.sign.isNegative then -(n.digits.value : Int) else n.digits.value

/-- The form without the sign that adds nothing. -/
theorem chars_of_sign (n : WrittenInteger) (h : n.sign ≠ .plus) :
    n.chars = (if n.sign.isNegative then ['-'] else []) ++ n.digits.chars := by
  rw [chars]
  cases hsign : n.sign with
  | plus => exact absurd hsign h
  | none => rfl
  | minus => rfl

theorem value_sides (n : WrittenInteger) :
    n.sign.isNegative = true ∧ n.value = -(n.digits.value : Int) ∨
      n.sign.isNegative = false ∧ n.value = n.digits.value := by
  rw [value]
  cases n.sign.isNegative with
  | true => exact .inl ⟨rfl, rfl⟩
  | false => exact .inr ⟨rfl, rfl⟩

theorem natAbs_value (n : WrittenInteger) : n.value.natAbs = n.digits.value := by
  have hsides := n.value_sides
  omega

theorem readInteger_chars (n : WrittenInteger) : readInteger n.chars = some n.value := by
  have hread := n.digits.readNatural_chars
  obtain ⟨c, cs, hcons, _, hminus, hplus⟩ := n.digits.exists_cons
  cases hsign : n.sign with
  | none =>
    simp only [chars, value, hsign, Sign.chars, Sign.isNegative, List.nil_append,
      Bool.false_eq_true, ↓reduceIte]
    unfold readInteger
    split
    · rename_i heq
      exact absurd (List.cons.inj (hcons.symm.trans heq)).1 hminus
    · rename_i heq
      exact absurd (List.cons.inj (hcons.symm.trans heq)).1 hplus
    · rw [hread]
      rfl
  | plus =>
    simp only [chars, value, hsign, Sign.chars, Sign.isNegative, List.singleton_append,
      Bool.false_eq_true, ↓reduceIte, readInteger, hread]
    rfl
  | minus =>
    simp only [chars, value, hsign, Sign.chars, Sign.isNegative, List.singleton_append,
      ↓reduceIte, readInteger, hread]
    rfl

theorem isBlank_of_mem_chars (n : WrittenInteger) (c : Char) (h : c ∈ n.chars) :
    Text.isBlank c = false := by
  rcases List.mem_append.mp h with hsign | hdigit
  · cases hn : n.sign with
    | none =>
      rw [hn] at hsign
      cases hsign
    | plus =>
      rw [hn] at hsign
      rw [List.mem_singleton.mp hsign]
      decide
    | minus =>
      rw [hn] at hsign
      rw [List.mem_singleton.mp hsign]
      decide
  · exact isBlank_of_isDigit c (n.digits.isDigit_of_mem c hdigit)

theorem trim_padded_chars (n : WrittenInteger) (before after : List Char)
    (hbefore : Text.Blank before) (hafter : Text.Blank after) :
    Text.trim (before ++ n.chars ++ after) = n.chars := by
  rw [Text.trim_pad before n.chars after hbefore hafter,
    Text.trim_eq_self n.chars n.isBlank_of_mem_chars]

end WrittenInteger

/-! ### Decimals -/

/-- A number with a sign. -/
def signed (negative : Bool) (q : ℚ) : ℚ := if negative then -q else q

/-- The number that a decimal numeral stands for. -/
def Decimal.value (d : Decimal) : ℚ := signed d.negative (d.digits * 10 ^ d.exponent)

/-- A number as it is written. -/
structure WrittenNumber where
  sign : Sign
  whole : Digits
  fraction : Option Digits

namespace WrittenNumber

/-- The point and the digits after it. -/
def tail (n : WrittenNumber) : List Char :=
  match n.fraction with
  | none => []
  | some ds => '.' :: ds.chars

def chars (n : WrittenNumber) : List Char := n.sign.chars ++ (n.whole.chars ++ n.tail)

/-- The digits after the point are parts of one whole. -/
def magnitude (n : WrittenNumber) : ℚ :=
  match n.fraction with
  | none => n.whole.value
  | some ds => n.whole.value + ds.value / 10 ^ ds.chars.length

def value (n : WrittenNumber) : ℚ := signed n.sign.isNegative n.magnitude

/-- The format of numbers accepts what is a number in writing, and nothing else. -/
theorem isNumeric_iff (cs : List Char) :
    Format.isNumeric cs = true ↔ ∃ n : WrittenNumber, n.chars = cs := by
  constructor
  · intro hnumeric
    obtain ⟨s, hs⟩ := exists_sign cs
    simp only [Format.isNumeric] at hnumeric
    split at hnumeric
    · obtain ⟨ds, hds⟩ := (isDigits_iff _).mp hnumeric
      refine ⟨⟨s, ds, none⟩, ?_⟩
      rw [chars, tail, List.append_nil, hds, ← hs]
    · rename_i whole fraction hcut
      rw [Bool.and_eq_true] at hnumeric
      obtain ⟨ws, hws⟩ := (isDigits_iff whole).mp hnumeric.1
      obtain ⟨fs, hfs⟩ := (isDigits_iff fraction).mp hnumeric.2
      refine ⟨⟨s, ws, some fs⟩, ?_⟩
      have htext := Text.eq_of_cutAt _ _ _ _ hcut
      simp only [chars, tail, hws, hfs]
      rw [← htext, ← hs]
  · rintro ⟨n, rfl⟩
    rw [chars]
    simp only [Format.isNumeric, readSign_chars]
    have hwhole := (isDigits_iff n.whole.chars).mpr ⟨n.whole, rfl⟩
    cases hfraction : n.fraction with
    | none =>
      have hcut := (Text.cutAt_eq_none_iff '.' n.whole.chars).mpr n.whole.notMem_point
      simp only [tail, hfraction, List.append_nil, hcut, hwhole]
    | some ds =>
      have hcut := Text.cutAt_append_cons '.' n.whole.chars ds.chars n.whole.notMem_point
      have hpart := (isDigits_iff ds.chars).mpr ⟨ds, rfl⟩
      simp only [tail, hfraction, hcut, hwhole, hpart, Bool.and_self]

/-! ### Reading decimals -/

/-- The decimal numeral of a number: the digits on both sides of the point in one row, and the
places of those after it. -/
def decimal (n : WrittenNumber) : Decimal :=
  match n.fraction with
  | none => ⟨n.sign.isNegative, n.whole.value, 0⟩
  | some ds =>
    ⟨n.sign.isNegative, Nat.ofDigitChars 10 (n.whole.chars ++ ds.chars) 0, -ds.chars.length⟩

theorem read_chars (n : WrittenNumber) : Decimal.read n.chars = some n.decimal := by
  rw [chars, Decimal.read, readSign_chars]
  cases hfraction : n.fraction with
  | none =>
    simp only [tail, hfraction, List.append_nil, readPoint, Digits.takeWhile_isDigit,
      Digits.dropWhile_isDigit, n.whole.ne_nil, false_and, ↓reduceIte, readPower, Option.map_some, decimal, Digits.value,
      List.length_nil, Int.natCast_zero, Int.sub_zero]
  | some ds =>
    have htake : (n.whole.chars ++ '.' :: ds.chars).takeWhile Char.isDigit = n.whole.chars := by
      rw [List.takeWhile_append_of_pos n.whole.isDigit_of_mem]
      simp
    have hdrop : (n.whole.chars ++ '.' :: ds.chars).dropWhile Char.isDigit = '.' :: ds.chars := by
      rw [List.dropWhile_append_of_pos n.whole.isDigit_of_mem]
      simp
    simp only [tail, hfraction, readPoint, htake, hdrop, Digits.takeWhile_isDigit,
      Digits.dropWhile_isDigit, n.whole.ne_nil, false_and, ↓reduceIte, readPower, Option.map_some, decimal, Int.zero_sub]

theorem value_decimal (n : WrittenNumber) : n.decimal.value = n.value := by
  cases hfraction : n.fraction with
  | none => simp only [decimal, Decimal.value, value, magnitude, hfraction, zpow_zero, mul_one]
  | some ds =>
    have hdigits : Nat.ofDigitChars 10 (n.whole.chars ++ ds.chars) 0 =
        10 ^ ds.chars.length * n.whole.value + ds.value := by
      rw [Nat.ofDigitChars_append, Nat.ofDigitChars_eq_ofDigitChars_zero]
      rfl
    have hpow : (10 : ℚ) ^ ds.chars.length ≠ 0 := pow_ne_zero _ (by norm_num)
    have hmagnitude : ((10 ^ ds.chars.length * n.whole.value + ds.value : Nat) : ℚ) *
        10 ^ (-(ds.chars.length : Int)) = n.whole.value + ds.value / 10 ^ ds.chars.length := by
      rw [zpow_neg, zpow_natCast]
      push_cast
      field_simp
    simp only [decimal, Decimal.value, value, magnitude, hfraction, hdigits, hmagnitude]

end WrittenNumber

end Fieldwise.Number
