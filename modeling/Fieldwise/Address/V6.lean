import Fieldwise.Address.V4
import Fieldwise.Number.Integer

/-!
# IPv6 addresses

An address is eight groups of sixteen bits. They are written in hexadecimal with
colons between them; the last two may be written as an IPv4 address, and one
double colon may stand for one or more groups of zero.
-/

namespace Fieldwise.Address

/-- An IPv6 address: its eight groups. -/
structure V6 where
  groups : List UInt16
  length_groups : groups.length = 8
deriving DecidableEq

/-- The number that hexadecimal digits stand for. -/
def ofHexDigits (cs : List Char) : Nat :=
  cs.foldl (fun n c => 16 * n + (Number.hexDigit? c).getD 0) 0

/-- The group at the front of a text, of one to four digits, and the text after it. -/
def readGroup (cs : List Char) : Option (UInt16 × List Char) :=
  let digits := cs.takeWhile Number.isHexDigit
  if digits ≠ [] ∧ digits.length ≤ 4 then
    some (UInt16.ofNat (ofHexDigits digits), cs.dropWhile Number.isHexDigit)
  else none

/-- The text after a colon. -/
def dropColon? : List Char → Option (List Char)
  | ':' :: cs => some cs
  | _ => none

def V4.groups (address : V4) : List UInt16 :=
  [UInt16.ofNat (address.a.toNat * 256 + address.b.toNat),
    UInt16.ofNat (address.c.toNat * 256 + address.d.toNat)]

/-- The groups at the front of a text, at most `room` of them, whether they end
with an IPv4 address, and the text after them. There is a colon before every
group but the first; an IPv4 address needs room for two groups and ends the
groups. -/
def readGroups (first : Bool) : (room : Nat) → List Char → List UInt16 × Bool × List Char
  | 0, cs => ([], false, cs)
  | room + 1, cs =>
    let start := if first then some cs else dropColon? cs
    let embedded := if room = 0 then none else start.bind V4.readFront
    match embedded with
    | some (address, rest) => (address.groups, true, rest)
    | none =>
      match start.bind readGroup with
      | some (group, rest) =>
        let (groups, embedded, rest) := readGroups false room rest
        (group :: groups, embedded, rest)
      | none => ([], false, cs)

/-- The address with these groups before and after the groups of zero. -/
def V6.ofParts? (front back : List UInt16) : Option V6 :=
  let groups := front ++ (List.replicate (8 - front.length - back.length) 0 ++ back)
  if h : groups.length = 8 then some ⟨groups, h⟩ else none

/-- The address that a text writes: eight groups, or groups before and after a
double colon, at least one fewer than eight. -/
def V6.read (cs : List Char) : Option V6 :=
  let (front, embedded, rest) := readGroups true 8 cs
  if front.length = 8 then
    if rest = [] then V6.ofParts? front [] else none
  else if embedded then none
  else do
    let rest ← dropColon? rest
    let rest ← dropColon? rest
    let (back, _, rest) := readGroups true (7 - front.length) rest
    if rest = [] then V6.ofParts? front back else none

end Fieldwise.Address
