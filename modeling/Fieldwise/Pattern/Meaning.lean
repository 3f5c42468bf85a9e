import Fieldwise.Pattern.Property
import Fieldwise.Pattern.Regex
import Fieldwise.Unicode.Folding
import Fieldwise.Unicode.Property.Letters

/-!
# What an expression means

An expression becomes a regular expression once its flags are applied. A flag holds
from where it stands to the end of its group. Without regard to case a set holds all
forms of its characters. Where Unicode is switched off, sets and their complements
are made of bytes; since a text is made of characters, a set that would hold a byte
outside ASCII is refused.
-/

namespace Fieldwise.Pattern

/-! ### Modes -/

/-- The flags in force. -/
structure Mode where
  foldsCase : Bool := false
  multiLine : Bool := false
  dotMatchesNewline : Bool := false
  unicode : Bool := true
  crlf : Bool := false

/-- The flags in force after some are switched. -/
def Mode.switch (mode : Mode) (flags : Flags) : Mode where
  foldsCase := (flags.switch .caseInsensitive).getD mode.foldsCase
  multiLine := (flags.switch .multiLine).getD mode.multiLine
  dotMatchesNewline := (flags.switch .dotMatchesNewline).getD mode.dotMatchesNewline
  unicode := (flags.switch .unicode).getD mode.unicode
  crlf := (flags.switch .crlf).getD mode.crlf

/-! ### Sets -/

/-- An ASCII character. -/
def isAscii (c : Char) : Bool := c.toNat < 0x80

/-- The other case of an ASCII letter, and any other character itself. -/
def swapAscii (c : Char) : Char :=
  if 'A' ≤ c ∧ c ≤ 'Z' then Char.ofNat (c.toNat + 32)
  else if 'a' ≤ c ∧ c ≤ 'z' then Char.ofNat (c.toNat - 32)
  else c

/-- The set with all forms of its characters, where case does not count. -/
def Mode.fold (mode : Mode) (set : CharSet) : CharSet :=
  if !mode.foldsCase then set
  else if mode.unicode then fun c => (Unicode.caseOrbit c).any set
  else fun c => set c || set (swapAscii c)

/-- The set, or its complement. -/
def complementIf (negated : Bool) (set : CharSet) : CharSet := fun c => negated != set c

/-- A set made of ASCII characters, or its complement where Unicode is on. -/
def Mode.negateIf (mode : Mode) (negated : Bool) (set : CharSet) : Except PatternError CharSet :=
  if negated ∧ !mode.unicode then .error .invalidUtf8 else .ok (complementIf negated set)

def isWordChar (c : Char) : Bool :=
  let category := Unicode.category c
  Unicode.Property.alphabetic.contains c || category.isMark || category == .decimalNumber ||
    category == .connectorPunctuation || Unicode.Property.joinControl.contains c

/-- The characters of an ASCII set. -/
def AsciiSet.contains : AsciiSet → CharSet
  | .alnum => fun c => c.isAlphanum
  | .alpha => fun c => c.isAlpha
  | .ascii => isAscii
  | .blank => fun c => c == '\t' || c == ' '
  | .cntrl => fun c => c.toNat < 0x20 || c.toNat == 0x7F
  | .digit => fun c => c.isDigit
  | .graph => fun c => '!' ≤ c && c ≤ '~'
  | .lower => fun c => c.isLower
  | .print => fun c => ' ' ≤ c && c ≤ '~'
  | .punct => fun c => '!' ≤ c && c ≤ '~' && !c.isAlphanum
  | .space => fun c => c == ' ' || ('\t' ≤ c && c ≤ '\r')
  | .upper => fun c => c.isUpper
  | .word => fun c => c.isAlphanum || c == '_'
  | .xdigit => fun c => c.isDigit || ('a' ≤ c && c ≤ 'f') || ('A' ≤ c && c ≤ 'F')

def ShortSet.contains (unicode : Bool) : ShortSet → CharSet
  | .digit =>
    if unicode then fun c => Unicode.category c == .decimalNumber
    else AsciiSet.contains .digit
  | .space => if unicode then Text.isBlank else AsciiSet.contains .space
  | .word => if unicode then isWordChar else AsciiSet.contains .word

/-- The character of a literal; a byte outside ASCII is none. -/
def Mode.char (mode : Mode) (l : Literal) : Except PatternError Char :=
  if !mode.unicode ∧ l.isByte ∧ !isAscii l.char then .error .invalidUtf8 else .ok l.char

def Mode.setChar (mode : Mode) (l : Literal) : Except PatternError Char := do
  let c ← mode.char l
  if !mode.unicode ∧ !isAscii c then .error .unicodeNotAllowed else return c

def Mode.propertySet (mode : Mode) (negated : Bool) (query : PropertyQuery) :
    Except PatternError CharSet :=
  if !mode.unicode then .error .unicodeNotAllowed
  else query.resolve.map fun set => complementIf negated (mode.fold set)

def SetOperator.apply (left right : CharSet) : SetOperator → CharSet
  | .intersection => fun c => left c && right c
  | .difference => fun c => left c && !right c
  | .symmetricDifference => fun c => left c != right c

mutual

def SetExpression.toSet (mode : Mode) : SetExpression → Except PatternError CharSet
  | .literal l => do
    let char ← mode.setChar l
    return mode.fold (· == char)
  | .range first last => do
    let low ← mode.setChar first
    let high ← mode.setChar last
    return mode.fold fun c => low ≤ c && c ≤ high
  | .ascii negated set => mode.negateIf negated (mode.fold set.contains)
  | .short negated set => mode.negateIf negated (set.contains mode.unicode)
  | .property negated query => mode.propertySet negated query
  | .union items => SetExpression.toUnion mode items
  | .bracketed negated set => do mode.negateIf negated (← set.toSet mode)
  | .combined operator left right => do
    let l ← left.toSet mode
    let r ← right.toSet mode
    return operator.apply l r

def SetExpression.toUnion (mode : Mode) : List SetExpression → Except PatternError CharSet
  | [] => .ok fun _ => false
  | item :: rest => do
    let set ← item.toSet mode
    let others ← SetExpression.toUnion mode rest
    return fun c => set c || others c

end

/-! ### Tests -/

/-- The position is where a line starts. Where lines end in CRLF, neither character of
the pair starts one before the other. -/
def isLineStart (crlf : Bool) (p : Position) : Bool :=
  match p.before with
  | none => true
  | some c => c == '\n' || (crlf && c == '\r' && p.after != some '\n')

/-- The position is where a line ends. -/
def isLineEnd (crlf : Bool) (p : Position) : Bool :=
  match p.after with
  | none => true
  | some c =>
    if crlf then c == '\r' || (c == '\n' && p.before != some '\r') else c == '\n'

def Assertion.holds (mode : Mode) (a : Assertion) (p : Position) : Bool :=
  let isWord (c : Option Char) : Bool := c.any (ShortSet.contains mode.unicode .word)
  match a with
  | .lineStart => if mode.multiLine then isLineStart mode.crlf p else p.before.isNone
  | .lineEnd => if mode.multiLine then isLineEnd mode.crlf p else p.after.isNone
  | .textStart => p.before.isNone
  | .textEnd => p.after.isNone
  | .wordBoundary => isWord p.before != isWord p.after
  | .notWordBoundary => isWord p.before == isWord p.after
  | .wordStart => !isWord p.before && isWord p.after
  | .wordEnd => isWord p.before && !isWord p.after
  | .wordStartHalf => !isWord p.before
  | .wordEndHalf => !isWord p.after

/-! ### Expressions -/

def Mode.dotSet (mode : Mode) : Except PatternError CharSet :=
  if !mode.unicode then .error .invalidUtf8
  else if mode.dotMatchesNewline then .ok fun _ => true
  else if mode.crlf then .ok fun c => c != '\n' && c != '\r'
  else .ok fun c => c != '\n'

/-- A set as an expression without marks. -/
def Regex.ofSet (set : CharSet) : Regex := .chars false set

mutual

/-- The meaning of an expression, and the flags in force after it. -/
def Expression.toRegex (mode : Mode) : Expression → Except PatternError (Regex × Mode)
  | .empty => .ok (.empty, mode)
  | .flags changes => .ok (.empty, mode.switch changes)
  | .literal l => do
    let char ← mode.char l
    return (.ofSet (mode.fold (· == char)), mode)
  | .dot => do return (.ofSet (← mode.dotSet), mode)
  | .assertion a => .ok (.test (a.holds mode), mode)
  | .short negated set => do
    return (.ofSet (← mode.negateIf negated (set.contains mode.unicode)), mode)
  | .property negated query => do return (.ofSet (← mode.propertySet negated query), mode)
  | .bracketed negated set => do
    return (.ofSet (← mode.negateIf negated (← set.toSet mode)), mode)
  | .repetition least most body => do
    let (r, mode) ← body.toRegex mode
    return (r.repeated least most, mode)
  | .group changes body => do
    let (r, _) ← body.toRegex (mode.switch changes)
    return (r, mode)
  | .alternation branches => Expression.toAlternation mode branches
  | .concat parts => Expression.toSequence mode parts

/-- The meaning of expressions one after another. -/
def Expression.toSequence (mode : Mode) : List Expression → Except PatternError (Regex × Mode)
  | [] => .ok (.empty, mode)
  | part :: rest => do
    let (first, mode) ← part.toRegex mode
    let (second, mode) ← Expression.toSequence mode rest
    return (.seq first second, mode)

def Expression.toAlternation (mode : Mode) : List Expression → Except PatternError (Regex × Mode)
  | [] => .ok (.nothing, mode)
  | branch :: rest => do
    let (left, mode) ← branch.toRegex mode
    let (right, mode) ← Expression.toAlternation mode rest
    return (.alt left right, mode)

end

end Fieldwise.Pattern
