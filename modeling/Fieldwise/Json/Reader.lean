import Fieldwise.FieldMap
import Fieldwise.Json.Basic
import Fieldwise.Number.Integer

/-!
# Reading JSON

The reader takes the whole text or nothing. A member whose name came before
replaces the earlier value and keeps its place. An integer literal is exact where
64 bits hold it. Any other number is a double: its leading digits, as far as
64 bits hold them, times or over a power of ten, each step rounded. Lists and
objects are nested up to a limit.
-/

namespace Fieldwise.Json

open Number (Binary64)

/-! ### Numbers -/

/-- Takes digits into a significand as long as it stays below `2 ^ 64`; also
gives the number of digits left out. -/
def absorb (significand : Nat) : List Char → Nat × Nat
  | [] => (significand, 0)
  | c :: cs =>
    let next := 10 * significand + (c.toNat - '0'.toNat)
    if next < 18446744073709551616 then absorb next cs else (significand, cs.length + 1)

/-- The double nearest to a power of ten. -/
def powerOfTen (n : Nat) : Binary64 := .ofNat (Number.tenPow n)

/-- Multiplies or divides by powers of ten up to `10 ^ 308`, rounding at each
step; nothing if the number becomes infinite. Three steps bring every number
down to zero, which is what `steps` allows for. -/
def scaled (x : Binary64) (exponent : Int) : (steps : Nat) → Option Binary64
  | 0 => some x
  | steps + 1 =>
    if exponent.natAbs ≤ 308 then
      if 0 ≤ exponent then
        match x.mul (powerOfTen exponent.natAbs) with
        | .infinity _ => none
        | y => some y
      else some (x.div (powerOfTen exponent.natAbs))
    else if x.isZero then some x
    else if 0 ≤ exponent then none
    else scaled (x.div (powerOfTen 308)) (exponent + 308) steps

def floatOf (negative : Bool) (significand : Nat) (exponent : Int) : Option Json :=
  (scaled (.ofNat significand) exponent 4).map fun x =>
    .float (if negative then x.neg else x)

/-- The number of an integer literal. A negative zero, and a negative number below
the signed range, is a double. -/
def integerOf (negative : Bool) (digits : List Char) : Option Json :=
  let n := Nat.ofDigitChars 10 digits 0
  if 18446744073709551616 ≤ n then
    let (significand, left) := absorb 0 digits
    floatOf negative significand left
  else if negative then
    if n = 0 ∨ 9223372036854775808 < n then some (.float (Binary64.neg (.ofNat n)))
    else some (.int (Int64.ofInt (-(n : Int))))
  else if n < 9223372036854775808 then some (.int (Int64.ofInt n))
  else some (.uint (UInt64.ofNat n))

/-- The exponent part of a number, if there is one, and the text after it. -/
def readExponent : List Char → Option (Option Int × List Char)
  | [] => some (none, [])
  | e :: cs =>
    if e = 'e' ∨ e = 'E' then
      let (negative, cs) : Bool × List Char := match cs with
        | '-' :: cs => (true, cs)
        | '+' :: cs => (false, cs)
        | cs => (false, cs)
      match Number.readNatural (cs.takeWhile Char.isDigit) with
      | some n => some (some (if negative then -(n : Int) else n), cs.dropWhile Char.isDigit)
      | none => none
    else some (none, e :: cs)

/-- The fraction of a number, if there is one, and the text after it. -/
def readFraction : List Char → Option (Option (List Char) × List Char)
  | '.' :: cs =>
    let digits := cs.takeWhile Char.isDigit
    if digits = [] then none else some (some digits, cs.dropWhile Char.isDigit)
  | cs => some (none, cs)

/-- A number and the text after it. The whole part has no zero before another
digit. -/
def readNumber (cs : List Char) : Option (Json × List Char) :=
  let (negative, cs) : Bool × List Char := match cs with
    | '-' :: cs => (true, cs)
    | cs => (false, cs)
  let whole := cs.takeWhile Char.isDigit
  if whole = [] ∨ (whole.head? = some '0' ∧ whole.length ≠ 1) then none
  else do
    let (fraction, rest) ← readFraction (cs.dropWhile Char.isDigit)
    let (exponent, rest) ← readExponent rest
    let number ← match fraction, exponent with
      | none, none => integerOf negative whole
      | _, _ =>
        let digits := fraction.getD []
        let (significand, left) := absorb 0 whole
        let (significand, left') := absorb significand digits
        floatOf negative significand
          (left - (digits.length - left' : Nat) + exponent.getD 0 : Int)
    some (number, rest)

/-! ### Strings -/

/-- Four hexadecimal digits and the text after them. -/
def readHex4 : List Char → Option (Nat × List Char)
  | a :: b :: c :: d :: cs => do
    let a ← Number.hexDigit? a
    let b ← Number.hexDigit? b
    let c ← Number.hexDigit? c
    let d ← Number.hexDigit? d
    some (((a * 16 + b) * 16 + c) * 16 + d, cs)
  | _ => none

/-- What follows a backslash: the character it stands for and the text after it.
A code unit of a surrogate pair counts only with its other half. -/
def readEscape : List Char → Option (Char × List Char)
  | '"' :: cs => some ('"', cs)
  | '\\' :: cs => some ('\\', cs)
  | '/' :: cs => some ('/', cs)
  | 'b' :: cs => some ('\x08', cs)
  | 'f' :: cs => some ('\x0C', cs)
  | 'n' :: cs => some ('\n', cs)
  | 'r' :: cs => some ('\r', cs)
  | 't' :: cs => some ('\t', cs)
  | 'u' :: cs => do
    let (n, cs) ← readHex4 cs
    if 0xD800 ≤ n ∧ n < 0xDC00 then
      match cs with
      | '\\' :: 'u' :: cs => do
        let (low, cs) ← readHex4 cs
        if 0xDC00 ≤ low ∧ low < 0xE000 then
          some (Char.ofNat (0x10000 + (n - 0xD800) * 0x400 + (low - 0xDC00)), cs)
        else none
      | _ => none
    else if 0xDC00 ≤ n ∧ n < 0xE000 then none
    else some (Char.ofNat n, cs)
  | _ => none

/-- The characters of a string up to its closing quote, and the text after it;
each step of `fuel` reads one character. -/
def readString : (fuel : Nat) → List Char → Option (List Char × List Char)
  | 0, _ => none
  | _ + 1, [] => none
  | fuel + 1, c :: cs =>
    if c = '"' then some ([], cs)
    else if c = '\\' then do
      let (c, cs) ← readEscape cs
      let (s, cs) ← readString fuel cs
      some (c :: s, cs)
    else if c.toNat < 0x20 then none
    else do
      let (s, cs) ← readString fuel cs
      some (c :: s, cs)

/-! ### Documents -/

def isSpace (c : Char) : Bool := c == ' ' || c == '\n' || c == '\t' || c == '\r'

/-- The text after the blanks it starts with. -/
def skipSpace (cs : List Char) : List Char := cs.dropWhile isSpace

/-- The text after a word. -/
def dropWord? : List Char → List Char → Option (List Char)
  | [], cs => some cs
  | _ :: _, [] => none
  | w :: word, c :: cs => if w = c then dropWord? word cs else none

/-- The greatest number of lists and objects that stand inside each other. -/
def nestingLimit : Nat := 127

mutual

/-- A document and the text after it; lists and objects are nested up to `room`, and
`fuel` bounds the characters that are read. -/
def readValue : (room fuel : Nat) → List Char → Option (Json × List Char)
  | _, 0, _ => none
  | room, fuel + 1, cs =>
    match skipSpace cs with
    | 'n' :: cs => (dropWord? "ull".toList cs).map (.null, ·)
    | 't' :: cs => (dropWord? "rue".toList cs).map (.bool true, ·)
    | 'f' :: cs => (dropWord? "alse".toList cs).map (.bool false, ·)
    | '"' :: cs => (readString fuel cs).map fun r => (.text (String.ofList r.1), r.2)
    | '[' :: cs =>
      match room with
      | 0 => none
      | room + 1 =>
        match skipSpace cs with
        | ']' :: cs => some (.list [], cs)
        | cs => (readItems room fuel cs).map fun r => (.list r.1, r.2)
    | '\x7b' :: cs =>
      match room with
      | 0 => none
      | room + 1 =>
        match skipSpace cs with
        | '\x7d' :: cs => some (.object [], cs)
        | cs =>
          (readMembers room fuel cs).map fun r => (.object (FieldMap.ofList r.1).entries, r.2)
    | cs => readNumber cs

/-- The items of a list up to its bracket, one at least. -/
def readItems : (room fuel : Nat) → List Char → Option (List Json × List Char)
  | _, 0, _ => none
  | room, fuel + 1, cs => do
    let (item, cs) ← readValue room fuel cs
    match skipSpace cs with
    | ']' :: cs => some ([item], cs)
    | ',' :: cs => do
      let (items, cs) ← readItems room fuel cs
      some (item :: items, cs)
    | _ => none

/-- The members of an object up to its brace, one at least. -/
def readMembers : (room fuel : Nat) → List Char → Option (List (String × Json) × List Char)
  | _, 0, _ => none
  | room, fuel + 1, cs =>
    match skipSpace cs with
    | '"' :: cs => do
      let (name, cs) ← readString fuel cs
      match skipSpace cs with
      | ':' :: cs => do
        let (value, cs) ← readValue room fuel cs
        match skipSpace cs with
        | '\x7d' :: cs => some ([(String.ofList name, value)], cs)
        | ',' :: cs => do
          let (members, cs) ← readMembers room fuel cs
          some ((String.ofList name, value) :: members, cs)
        | _ => none
      | _ => none
    | _ => none

end

/-- The document that a text writes, if it is one and nothing else. -/
def ofText? (s : String) : Option Json := do
  let (value, rest) ← readValue nestingLimit (s.toList.length + 1) s.toList
  if skipSpace rest = [] then some value else none

end Fieldwise.Json
