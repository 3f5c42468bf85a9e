import Fieldwise.Number.Power

/-!
# Double-precision numbers

A finite double is a signed natural number of units of `2 ^ -1074`: a significand
below `2 ^ 53`, shifted left. All arithmetic is exact on these naturals and is
rounded once, to the nearest representable number and to the even significand
on a tie, so every operation is the correctly rounded one.
-/

namespace Fieldwise.Number

/-! ### Binary formats and rounding -/

/-- A binary format: the bits of its significand, the exponent of its unit
`2 ^ -unit`, and the greatest shift of a significand. -/
structure BinaryFormat where
  precision : Nat
  unit : Nat
  maxShift : Nat

def BinaryFormat.double : BinaryFormat := ⟨53, 1074, 2045⟩

def BinaryFormat.single : BinaryFormat := ⟨24, 149, 253⟩

/-- The natural number nearest to `num / den`, the even one on a tie. -/
def roundDiv (num den : Nat) : Nat :=
  let q := num / den
  let r := num % den
  if 2 * r < den then q
  else if den < 2 * r then q + 1
  else if q % 2 = 0 then q
  else q + 1

/-- The significand and shift of the number nearest to `num / den`, the shift
not yet bounded. -/
def BinaryFormat.round (f : BinaryFormat) (num den : Nat) : Nat × Nat :=
  let scaled := num * twoPow f.unit
  let shift := (scaled / den).log2 + 1 - f.precision
  let significand := roundDiv scaled (den * twoPow shift)
  if significand = twoPow f.precision then (twoPow (f.precision - 1), shift + 1)
  else (significand, shift)

/-! ### Doubles -/

/-- A finite double: `± significand · 2 ^ shift` units of `2 ^ -1074`. The high
bit of the significand is set unless the shift is zero, so each number has one
form, zero apart, which has one for each sign. The significand is below `2 ^ 53`, and its
high bit stands for `2 ^ 52`. -/
structure Finite where
  negative : Bool
  significand : Nat
  shift : Nat
  significand_lt : significand < 9007199254740992
  shift_le : shift ≤ 2045
  high_bit : shift = 0 ∨ 4503599627370496 ≤ significand
deriving DecidableEq

/-- A double-precision number. -/
inductive Binary64
  | nan
  | infinity (negative : Bool)
  | finite (x : Finite)
deriving DecidableEq

/-- The magnitude, in units of `2 ^ -1074`. -/
def Finite.units (x : Finite) : Nat := x.significand * twoPow x.shift

/-- The integer part: the fraction is dropped on either side of zero. -/
def Finite.truncate (x : Finite) : Int :=
  let whole : Int := x.units / twoPow 1074
  if x.negative then -whole else whole

namespace Binary64

/-- The number with these parts, or an infinity where the parts are beyond the
greatest finite number. -/
def ofParts (negative : Bool) (significand shift : Nat) : Binary64 :=
  if h : significand < 9007199254740992 ∧ shift ≤ 2045 ∧
      (shift = 0 ∨ 4503599627370496 ≤ significand) then
    finite ⟨negative, significand, shift, h.1, h.2.1, h.2.2⟩
  else infinity negative

/-- The number nearest to `± num / den`. -/
def ofRatio (negative : Bool) (num den : Nat) : Binary64 :=
  let parts := BinaryFormat.double.round num den
  ofParts negative parts.1 parts.2

/-- The number nearest to a natural number. -/
def ofNat (n : Nat) : Binary64 := ofRatio false n 1

def zero (negative : Bool) : Binary64 := ofParts negative 0 0

def neg : Binary64 → Binary64
  | nan => nan
  | infinity negative => infinity (!negative)
  | finite x => finite { x with negative := !x.negative }

def isZero : Binary64 → Bool
  | finite x => x.significand == 0
  | _ => false

/-- Equality as numbers: the zeros are equal, and NaN is equal to nothing. -/
def equals : Binary64 → Binary64 → Bool
  | infinity a, infinity b => a == b
  | finite x, finite y => x.units == y.units && (x.negative == y.negative || x.units == 0)
  | _, _ => false

def mul : Binary64 → Binary64 → Binary64
  | nan, _ => nan
  | _, nan => nan
  | infinity a, infinity b => infinity (a ^^ b)
  | infinity a, finite y => if y.significand = 0 then nan else infinity (a ^^ y.negative)
  | finite x, infinity b => if x.significand = 0 then nan else infinity (x.negative ^^ b)
  | finite x, finite y => ofRatio (x.negative ^^ y.negative) (x.units * y.units) (twoPow 2148)

def div : Binary64 → Binary64 → Binary64
  | nan, _ => nan
  | _, nan => nan
  | infinity _, infinity _ => nan
  | infinity a, finite y => infinity (a ^^ y.negative)
  | finite x, infinity b => zero (x.negative ^^ b)
  | finite x, finite y =>
    if y.significand = 0 then
      if x.significand = 0 then nan else infinity (x.negative ^^ y.negative)
    else ofRatio (x.negative ^^ y.negative) x.units y.units

end Binary64

end Fieldwise.Number
