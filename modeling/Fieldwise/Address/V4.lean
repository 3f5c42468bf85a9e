import Fieldwise.Number.Integer

/-!
# IPv4 addresses

An address is four octets. It is written as their decimal forms with points
between them, and read from that form alone: no leading zeros, nothing left out.
-/

namespace Fieldwise.Address

/-- An IPv4 address. -/
structure V4 where
  a : UInt8
  b : UInt8
  c : UInt8
  d : UInt8
deriving DecidableEq

/-- The octet at the front of a text, and the text after it: one to three digits,
no zero before another digit, at most 255. -/
def readOctet (cs : List Char) : Option (UInt8 × List Char) :=
  let digits := cs.takeWhile Char.isDigit
  let n := Nat.ofDigitChars 10 digits 0
  if digits ≠ [] ∧ digits.length ≤ 3 ∧ (digits.head? = some '0' → digits.length = 1) ∧
      n ≤ 255 then
    some (UInt8.ofNat n, cs.dropWhile Char.isDigit)
  else none

/-- The octet after a point. -/
def readPointOctet : List Char → Option (UInt8 × List Char)
  | '.' :: cs => readOctet cs
  | _ => none

/-- The address at the front of a text, and the text after it. -/
def V4.readFront (cs : List Char) : Option (V4 × List Char) := do
  let (a, cs) ← readOctet cs
  let (b, cs) ← readPointOctet cs
  let (c, cs) ← readPointOctet cs
  let (d, cs) ← readPointOctet cs
  some (⟨a, b, c, d⟩, cs)

def V4.read (cs : List Char) : Option V4 :=
  match V4.readFront cs with
  | some (address, []) => some address
  | _ => none

def V4.chars (address : V4) : List Char :=
  Number.natural address.a.toNat ++ '.' :: (Number.natural address.b.toNat ++ '.' ::
    (Number.natural address.c.toNat ++ '.' :: Number.natural address.d.toNat))

end Fieldwise.Address
