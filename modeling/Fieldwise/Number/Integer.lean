import Fieldwise.Number.Power

/-!
# Reading and writing integers

An integer is written as an optional sign and one or more ASCII digits, leading
zeros allowed. Each reader accepts the whole text or nothing, and refuses a
number outside its range. Writing gives the decimal form, which every reader
whose range holds the number reads back.
-/

namespace Fieldwise.Number

/-! ### Digits -/

/-- The number that the digits stand for, if there is at least one character and
all are ASCII digits. -/
def readNatural (cs : List Char) : Option Nat :=
  if cs ≠ [] ∧ cs.all Char.isDigit then some (Nat.ofDigitChars 10 cs 0) else none

def natural (n : Nat) : List Char := Nat.toDigits 10 n

theorem readNatural_natural (n : Nat) : readNatural (natural n) = some n := by
  have digits : (natural n).all Char.isDigit = true := by
    rw [List.all_eq_true]
    intro c hc
    exact Nat.isDigit_of_mem_toDigits (by decide) (by decide) hc
  have nonempty : natural n ≠ [] := Nat.toDigits_ne_nil
  simp only [readNatural, nonempty, digits, ne_eq, not_false_eq_true, and_self, ↓reduceIte]
  rw [natural, Nat.ofDigitChars_toDigits (by decide) (by decide)]

/-! ### Hexadecimal digits -/

def hexDigit? (c : Char) : Option Nat :=
  if '0' ≤ c ∧ c ≤ '9' then some (c.toNat - '0'.toNat)
  else if 'a' ≤ c ∧ c ≤ 'f' then some (c.toNat - 'a'.toNat + 10)
  else if 'A' ≤ c ∧ c ≤ 'F' then some (c.toNat - 'A'.toNat + 10)
  else none

def isHexDigit (c : Char) : Bool := (hexDigit? c).isSome

/-! ### Signed numbers -/

/-- The number that a signed decimal text stands for; both signs are accepted. -/
def readInteger : List Char → Option Int
  | '-' :: cs => (readNatural cs).map fun n => -(n : Int)
  | '+' :: cs => (readNatural cs).map fun n => (n : Int)
  | cs => (readNatural cs).map fun n => (n : Int)

/-- The decimal form of an integer, with a sign only when it is negative. -/
def integer (z : Int) : List Char :=
  if z < 0 then '-' :: natural z.natAbs else natural z.natAbs

/-- A signed number of at most `bits` bits, two's complement. -/
def readSigned (bits : Nat) (cs : List Char) : Option Int :=
  (readInteger cs).filter fun z => -(twoPow (bits - 1) : Int) ≤ z ∧ z < twoPow (bits - 1)

/-- A number of at most `bits` bits; a minus sign is refused, also before zero. -/
def readUnsigned (bits : Nat) (cs : List Char) : Option Nat :=
  let digits := match cs with
    | '+' :: rest => rest
    | _ => cs
  (readNatural digits).filter fun n => n < twoPow bits

def readInt64 (cs : List Char) : Option Int64 := (readSigned 64 cs).map Int64.ofInt

def readUInt64 (cs : List Char) : Option UInt64 := (readUnsigned 64 cs).map UInt64.ofNat

end Fieldwise.Number
