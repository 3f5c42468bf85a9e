import Fieldwise.Number.Shortest

/-!
# JSON documents

A document keeps the members of its objects in order, no name twice. A number is
an integer of 64 bits, signed where it fits and unsigned else, or a double.
-/

namespace Fieldwise

open Number (Binary64)

/-- A JSON document. -/
inductive Json
  | null
  | bool (b : Bool)
  | int (n : Int64)
  | uint (n : UInt64)
  | float (x : Binary64)
  | text (s : String)
  | list (items : List Json)
  | object (members : List (String × Json))

namespace Json

/-! ### Compact text -/

/-- The four hexadecimal digits of a number below `16 ^ 4`, in lower case. -/
def hex4 (n : Nat) : List Char :=
  [n / 4096 % 16, n / 256 % 16, n / 16 % 16, n % 16].map Nat.digitChar

/-- A character of a written string: the quote, the backslash and the characters
below U+0020 are escaped, the rest stands for itself. -/
def escape (c : Char) : List Char :=
  if c = '"' then ['\\', '"']
  else if c = '\\' then ['\\', '\\']
  else if c = '\x08' then ['\\', 'b']
  else if c = '\x0C' then ['\\', 'f']
  else if c = '\n' then ['\\', 'n']
  else if c = '\r' then ['\\', 'r']
  else if c = '\t' then ['\\', 't']
  else if c.toNat < 0x20 then '\\' :: 'u' :: hex4 c.toNat
  else [c]

def quoted (s : String) : List Char := '"' :: (s.toList.flatMap escape ++ ['"'])

/-- The number `digits · 10 ^ exponent`: up to sixteen digits before the point and
up to four zeros after it, a whole number with `.0`; any other has its point after the
first digit and an exponent. -/
def writtenDecimal (digits : Nat) (exponent : Int) : List Char :=
  let ds := Number.natural digits
  let point : Int := ds.length + exponent
  if -5 < point ∧ point ≤ 16 then
    let cs := Number.positional digits exponent
    if 0 ≤ exponent then cs ++ ['.', '0'] else cs
  else
    let fraction := ds.drop 1
    ds.take 1 ++ (if fraction = [] then [] else '.' :: fraction) ++
      'e' :: Number.integer (point - 1)

/-- A double by its shortest digits, and one that is not finite as `null`. -/
def writtenFloat : Binary64 → List Char
  | .finite x =>
    let cs :=
      if x.significand = 0 then "0.0".toList else writtenDecimal x.shortest.1 x.shortest.2
    if x.negative then '-' :: cs else cs
  | _ => "null".toList

mutual

/-- The text of a document without blanks. -/
def compact : Json → List Char
  | .null => "null".toList
  | .bool b => if b then "true".toList else "false".toList
  | .int n => Number.integer n.toInt
  | .uint n => Number.natural n.toNat
  | .float x => writtenFloat x
  | .text s => quoted s
  | .list items => '[' :: compactItems true items
  | .object members => '\x7b' :: compactMembers true members

/-- The items of a list that are left, and the bracket after them. -/
def compactItems (first : Bool) : List Json → List Char
  | [] => [']']
  | item :: rest =>
    (if first then [] else [',']) ++ (item.compact ++ compactItems false rest)

/-- The members of an object that are left, and the brace after them. -/
def compactMembers (first : Bool) : List (String × Json) → List Char
  | [] => ['\x7d']
  | (name, value) :: rest =>
    (if first then [] else [',']) ++
      (quoted name ++ ':' :: (value.compact ++ compactMembers false rest))

end

/-- The text of a document without blanks, as a string. -/
def toText (j : Json) : String := String.ofList j.compact

end Json

end Fieldwise
