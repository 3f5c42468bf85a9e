import Fieldwise.Address.V6
import Fieldwise.Number.Decimal
import Fieldwise.Text.Blank

/-!
# Formats of text

Yes-or-no questions about a text: is it an email address, a URL, a UUID, a number,
an IP address, one of a set, equal to another. All but the last two look at the
shape alone. A length is counted in characters.
-/

namespace Fieldwise.Format

/-! ### Characters -/

/-- An ASCII letter. -/
def isLetter (c : Char) : Bool := ('a' ≤ c && c ≤ 'z') || ('A' ≤ c && c ≤ 'Z')

/-- An ASCII letter or digit. -/
def isLetterOrDigit (c : Char) : Bool := isLetter c || c.isDigit

/-- A character of the part of an email address before the at sign. -/
def isLocalChar (c : Char) : Bool :=
  isLetterOrDigit c || c == '.' || c == '_' || c == '%' || c == '+' || c == '-'

def isDomainChar (c : Char) : Bool := isLetterOrDigit c || c == '.' || c == '-'

/-! ### Languages -/

/-- One or more ASCII letters. -/
def isAlpha (cs : List Char) : Bool := cs != [] && cs.all isLetter

/-- One or more ASCII letters and digits. -/
def isAlphanumeric (cs : List Char) : Bool := cs != [] && cs.all isLetterOrDigit

/-- One or more ASCII digits. -/
def isDigits (cs : List Char) : Bool := cs != [] && cs.all Char.isDigit

/-- Digits with an optional sign, and an optional point with digits after it. -/
def isNumeric (cs : List Char) : Bool :=
  let unsigned := (Number.readSign cs).2
  match Text.cutAt '.' unsigned with
  | none => isDigits unsigned
  | some (whole, fraction) => isDigits whole && isDigits fraction

/-- A local part, an at sign, and a domain whose part after the last point has two
letters or more and nothing but letters. -/
def isEmail (cs : List Char) : Bool :=
  match Text.cutAt '@' cs with
  | none => false
  | some (localPart, domain) =>
    let top := (domain.reverse.takeWhile (· != '.')).reverse
    let rest := (domain.reverse.dropWhile (· != '.')).drop 1
    localPart != [] && localPart.all isLocalChar &&
      rest != [] && rest.all isDomainChar && 2 ≤ top.length && top.all isLetter

/-- Equal letters up to case, where the long s is a form of s. -/
def sameLetter (letter c : Char) : Bool :=
  Text.lowerAscii c == letter || (letter == 's' && c == '\u017F')

/-- The text after a word, if it starts with it up to case. -/
def dropScheme? : List Char → List Char → Option (List Char)
  | [], cs => some cs
  | _ :: _, [] => none
  | w :: word, c :: cs => if sameLetter w c then dropScheme? word cs else none

/-- What follows a scheme: `://`, a character that may begin a host, and characters
that are not blank. -/
def isAuthority : List Char → Bool
  | ':' :: '/' :: '/' :: c :: cs =>
    !Text.isBlank c && !(['/', '$', '.', '?', '#'].contains c) && cs.all fun c => !Text.isBlank c
  | _ => false

/-- One of the schemes `http`, `https` and `ftp` in any case, and an authority. -/
def isUrl (cs : List Char) : Bool :=
  ["https", "http", "ftp"].any fun scheme =>
    ((dropScheme? scheme.toList cs).map isAuthority).getD false

/-- So many hexadecimal digits. -/
def isHex (length : Nat) (cs : List Char) : Bool :=
  cs.length == length && cs.all Number.isHexDigit

/-- Five groups of 8, 4, 4, 4 and 12 hexadecimal digits with hyphens between them,
the third beginning with the version, 1 to 5, and the fourth with 8, 9, a or b. -/
def isUuid (cs : List Char) : Bool :=
  match cs.splitOn '-' with
  | [a, b, c, d, e] =>
    isHex 8 a && isHex 4 b && isHex 4 c && isHex 4 d && isHex 12 e &&
      (match c.head? with
      | some version => '1' ≤ version && version ≤ '5'
      | none => false) &&
      (match d.head? with
      | some mark => ['8', '9', 'a', 'b', 'A', 'B'].contains mark
      | none => false)
  | _ => false

/-! ### Addresses -/

def isIpv4 (cs : List Char) : Bool := (Address.V4.read cs).isSome

def isIpv6 (cs : List Char) : Bool := (Address.V6.read cs).isSome

def isIp (cs : List Char) : Bool := isIpv4 cs || isIpv6 cs

/-! ### Comparison -/

/-- The double nearest to the number that a text writes. -/
def nearest (cs : List Char) : Option Number.Binary64 :=
  (Number.Decimal.read cs).map Number.Decimal.toBinary64

/-- The same text, or two numbers with the same nearest double. -/
def isEqual (cs expected : List Char) : Bool :=
  cs == expected ||
    (isNumeric cs && isNumeric expected &&
      match nearest cs, nearest expected with
      | some x, some y => x.equals y
      | _, _ => false)

/-- Exactly one of the options. -/
def isOneOf (cs : List Char) (options : List String) : Bool :=
  options.any fun option => option.toList == cs

def isNotOneOf (cs : List Char) (options : List String) : Bool := !isOneOf cs options

/-! ### Lengths and bounds -/

def hasMinChars (cs : List Char) (least : UInt64) : Bool := least.toNat ≤ cs.length

def hasMaxChars (cs : List Char) (most : UInt64) : Bool := cs.length ≤ most.toNat

def atLeast (value bound : Int64) : Bool := bound ≤ value

def atMost (value bound : Int64) : Bool := value ≤ bound

end Fieldwise.Format
