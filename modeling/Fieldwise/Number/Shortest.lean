import Fieldwise.Number.Binary64
import Fieldwise.Number.Integer

/-!
# The shortest decimal text of a double

A finite double is written with the fewest digits that read back to it: of the
decimals with that many digits, the one nearest to it, and the greater on a tie.
The digits are laid out around the point without an exponent, however many zeros
that takes, and a whole number has no point.
-/

namespace Fieldwise.Number

/-! ### Choosing the digits -/

/-- The decimals that read back to a double, in units of `2 ^ -1076`: those
between `low` and `high`, the ends included when `closed` holds. -/
structure RoundingInterval where
  low : Nat
  value : Nat
  high : Nat
  closed : Bool

/-- The interval reaches half way to each neighbour, and the neighbour below is
nearer where the significand is the least of its shift. A tie is read to the even
significand, so the ends belong to the even ones. -/
def Finite.interval (x : Finite) : RoundingInterval :=
  let step := twoPow x.shift
  let value := 4 * x.units
  let below := if x.significand = 4503599627370496 ∧ 0 < x.shift then step else 2 * step
  ⟨value - below, value, value + 2 * step, x.significand % 2 = 0⟩

/-- The first `k` of `k`, `k + 1`, … at which `value · 10 ^ k` reaches one whole,
`2 ^ 1076` units; `fuel` bounds the search. -/
def firstWholeScale (value : Nat) : (fuel k : Nat) → Nat
  | 0, k => k
  | fuel + 1, k =>
    if twoPow 1076 ≤ value * tenPow k then k else firstWholeScale value fuel (k + 1)

/-- The exponent of the first digit: the `e` with `10 ^ e ≤ v < 10 ^ (e + 1)`,
where `v` is `value` units of `2 ^ -1076`. No double but zero is below `10 ^ -330`. -/
def leadingExponent (value : Nat) : Int :=
  if twoPow 1076 ≤ value then (natural (value / twoPow 1076)).length - 1
  else -(firstWholeScale value 330 1 : Int)

/-- The better of the two multiples of `10 ^ grid` around the value that lie in
the interval, if one does. -/
def RoundingInterval.onGrid (i : RoundingInterval) (grid : Int) : Option Nat :=
  let up := tenPow (-grid).toNat
  let den := twoPow 1076 * tenPow grid.toNat
  let value := i.value * up
  let down := value / den
  let lowOk := i.low * up < down * den || (i.closed && i.low * up == down * den)
  let highOk := (down + 1) * den < i.high * up || (i.closed && (down + 1) * den == i.high * up)
  if lowOk && (!highOk || 2 * (value - down * den) < den) then some down
  else if highOk then some (down + 1)
  else none

/-- The first of the grids with `count`, `count + 1`, … digits that has a hit:
digits and exponent. With `left = 0` the value itself is cut. -/
def RoundingInterval.search (i : RoundingInterval) (lead : Int) : (left count : Nat) → Nat × Int
  | 0, count =>
    let grid := lead - count
    (i.value * tenPow (-grid).toNat / (twoPow 1076 * tenPow grid.toNat), grid)
  | left + 1, count =>
    let grid := lead - count
    match i.onGrid grid with
    | some digits => if digits = tenPow (count + 1) then (1, lead + 1) else (digits, grid)
    | none => i.search lead left (count + 1)

/-- The shortest digits of a finite double other than zero, and their exponent:
the number is near `digits · 10 ^ exponent`. Seventeen digits always suffice. -/
def Finite.shortest (x : Finite) : Nat × Int :=
  x.interval.search (leadingExponent x.interval.value) 17 0

/-! ### Laying them out -/

/-- The digits of `digits · 10 ^ exponent` without an exponent. -/
def positional (digits : Nat) (exponent : Int) : List Char :=
  let ds := natural digits
  match exponent with
  | .ofNat zeros => ds ++ List.replicate zeros '0'
  | .negSucc n =>
    let places := n + 1
    if places < ds.length then ds.take (ds.length - places) ++ '.' :: ds.drop (ds.length - places)
    else '0' :: '.' :: (List.replicate (places - ds.length) '0' ++ ds)

def Finite.magnitude (x : Finite) : List Char :=
  if x.significand = 0 then ['0'] else positional x.shortest.1 x.shortest.2

/-- The text of a double; a zero keeps its sign. -/
def Binary64.chars : Binary64 → List Char
  | .nan => "NaN".toList
  | .infinity negative => if negative then "-inf".toList else "inf".toList
  | .finite x => if x.negative then '-' :: x.magnitude else x.magnitude

end Fieldwise.Number
