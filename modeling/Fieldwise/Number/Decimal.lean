import Fieldwise.Number.Binary64
import Fieldwise.Number.Integer

/-!
# Decimal numerals

A decimal numeral is a natural number of digits times a power of ten. Reading
accepts an optional sign, digits with at most one point, and an optional power
of ten; the double of a numeral is the one nearest to its exact value, at any
length.
-/

namespace Fieldwise.Number

/-- The number `± digits · 10 ^ exponent`. -/
structure Decimal where
  negative : Bool
  digits : Nat
  exponent : Int
deriving DecidableEq

/-! ### Reading -/

/-- The sign of a text, and the text after it. -/
def readSign : List Char → Bool × List Char
  | '-' :: cs => (true, cs)
  | '+' :: cs => (false, cs)
  | cs => (false, cs)

/-- The power of ten at the end of a numeral: nothing, or `e`, an optional sign
and digits. -/
def readPower : List Char → Option Int
  | [] => some 0
  | e :: cs =>
    if e = 'e' ∨ e = 'E' then
      (readNatural (readSign cs).2).map fun n => if (readSign cs).1 then -(n : Int) else n
    else none

/-- The digits before and after the point of a numeral, and the text after them. -/
def readPoint (cs : List Char) : List Char × List Char × List Char :=
  let whole := cs.takeWhile Char.isDigit
  match cs.dropWhile Char.isDigit with
  | '.' :: rest => (whole, rest.takeWhile Char.isDigit, rest.dropWhile Char.isDigit)
  | rest => (whole, [], rest)

/-- The numeral that a text writes; there is a digit before or after the point. -/
def Decimal.read (cs : List Char) : Option Decimal :=
  let (negative, cs) := readSign cs
  let (whole, fraction, rest) := readPoint cs
  if whole = [] ∧ fraction = [] then none
  else (readPower rest).map fun power =>
    ⟨negative, Nat.ofDigitChars 10 (whole ++ fraction) 0, power - fraction.length⟩

/-! ### Rounding -/

def Decimal.ratio (d : Decimal) : Nat × Nat :=
  if 0 ≤ d.exponent then (d.digits * tenPow d.exponent.toNat, 1)
  else (d.digits, tenPow d.exponent.natAbs)

/-- The significand and shift nearest to the value in a format whose numbers lie
between `10 ^ -400` and `10 ^ 400`. A value outside these bounds is not computed:
it rounds to zero, or above every shift. -/
def Decimal.round (f : BinaryFormat) (d : Decimal) : Nat × Nat :=
  if d.digits = 0 then (0, 0)
  else if 400 < d.exponent then (twoPow (f.precision - 1), f.maxShift + 1)
  else if d.exponent < -(401 + d.digits.log2 : Int) then (0, 0)
  else f.round d.ratio.1 d.ratio.2

/-- The double nearest to the value. -/
def Decimal.toBinary64 (d : Decimal) : Binary64 :=
  let parts := d.round .double
  Binary64.ofParts d.negative parts.1 parts.2

/-- The single-precision number nearest to the value, as a double. -/
def Decimal.toSingle (d : Decimal) : Binary64 :=
  let parts := d.round .single
  if BinaryFormat.single.maxShift < parts.2 then .infinity d.negative
  else .ofRatio d.negative (parts.1 * twoPow parts.2) (twoPow BinaryFormat.single.unit)

/-! ### Numbers and the words for what is no number -/

/-- Equal up to the case of ASCII letters. -/
def sameWord (word : String) (cs : List Char) : Bool := cs.map Char.toLower == word.toList

/-- The number that a text writes: a numeral, or one of the words `nan`, `inf`
and `infinity` with an optional sign, each in any case. -/
def readNumber (round : Decimal → Binary64) (cs : List Char) : Option Binary64 :=
  let (negative, rest) := readSign cs
  if sameWord "inf" rest || sameWord "infinity" rest then some (.infinity negative)
  else if sameWord "nan" rest then some .nan
  else (Decimal.read cs).map round

def Binary64.ofText? (s : String) : Option Binary64 := readNumber Decimal.toBinary64 s.toList

/-- The single-precision number that a text writes, as a double. -/
def Binary64.ofSingleText? (s : String) : Option Binary64 := readNumber Decimal.toSingle s.toList

end Fieldwise.Number
