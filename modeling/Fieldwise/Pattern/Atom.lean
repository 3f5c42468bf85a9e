import Fieldwise.Number.Integer
import Fieldwise.Pattern.Error
import Fieldwise.Pattern.Expression
import Fieldwise.Text.Blank

/-!
# Reading escapes and numbers of patterns

What is written with a backslash, or with digits, in a pattern. A reader takes the
text from where it stands and gives what it read with the text after it. Where blanks
do not count, they and comments may stand between the characters.
-/

namespace Fieldwise.Pattern

/-! ### Blanks -/

/-- The text after the blanks and comments it begins with. A comment goes from `#`
to the end of the line. -/
def skipBlanks : List Char → List Char
  | [] => []
  | c :: cs =>
    if Text.isBlank c then skipBlanks cs
    else if c = '#' then skipComment cs
    else c :: cs
where
  /-- The text after a comment and the blanks that follow it. -/
  skipComment : List Char → List Char
    | [] => []
    | c :: cs => if c = '\n' then skipBlanks cs else skipComment cs

/-- The text after blanks and comments, where they do not count. -/
def skip (ignoreSpace : Bool) (cs : List Char) : List Char :=
  if ignoreSpace then skipBlanks cs else cs

/-! ### Numbers -/

/-- The digits at the beginning, with blanks between them where these do not count. -/
def takeDigits (ignoreSpace : Bool) : Nat → List Char → List Char × List Char
  | 0, cs => ([], cs)
  | fuel + 1, cs =>
    match cs with
    | c :: rest =>
      if c.isDigit then
        let (digits, rest) := takeDigits ignoreSpace fuel (skip ignoreSpace rest)
        (c :: digits, rest)
      else ([], cs)
    | [] => ([], [])

/-- A count with blanks around it, and the text after it: a number below `2 ^ 32`. -/
def readCount (ignoreSpace : Bool) (cs : List Char) : Except PatternError Nat × List Char :=
  let cs := Text.trimStart cs
  let (digits, rest) := takeDigits ignoreSpace (cs.length + 1) cs
  let count : Except PatternError Nat :=
    match Number.readNatural digits with
    | none => .error .repetitionCountEmpty
    | some n => if n < 4294967296 then .ok n else .error .decimalInvalid
  (count, skip ignoreSpace (Text.trimStart rest))

/-! ### Hexadecimal escapes -/

def charOf (code : Nat) : Except PatternError Char :=
  if code.isValidChar then .ok (Char.ofNat code) else .error .escapeHexInvalid

/-- So many hexadecimal digits more, after those that give `code`. -/
def readHexDigits (ignoreSpace : Bool) :
    Nat → Nat → List Char → Except PatternError (Nat × List Char)
  | 0, code, cs => .ok (code, cs)
  | count + 1, code, cs =>
    match cs with
    | [] => .error .escapeUnfinished
    | c :: rest =>
      match Number.hexDigit? c with
      | none => .error .escapeHexInvalidDigit
      | some digit =>
        readHexDigits ignoreSpace count (16 * code + digit) (skip ignoreSpace rest)

/-- Hexadecimal digits up to a brace, after those that give `code`. -/
def readHexBraces (ignoreSpace : Bool) (empty : Bool) (code : Nat) :
    Nat → List Char → Except PatternError (Char × List Char)
  | 0, _ => .error .escapeUnfinished
  | fuel + 1, cs =>
    match skip ignoreSpace cs with
    | [] => .error .escapeUnfinished
    | c :: rest =>
      if c = '\x7d' then
        if empty then .error .escapeHexEmpty
        else (charOf code).map fun char => (char, skip ignoreSpace rest)
      else
        match Number.hexDigit? c with
        | none => .error .escapeHexInvalidDigit
        | some digit => readHexBraces ignoreSpace false (16 * code + digit) fuel rest

/-- A character by its code point: after `x` two digits, which write a byte, after `u`
four and after `U` eight, or after each as many as there are between braces. -/
def readHex (ignoreSpace : Bool) (kind : Char) (cs : List Char) :
    Except PatternError (Literal × List Char) :=
  match skip ignoreSpace cs with
  | [] => .error .escapeUnfinished
  | c :: rest =>
    if c = '\x7b' then
      (readHexBraces ignoreSpace true 0 (rest.length + 1) rest).map fun r => (⟨r.1, false⟩, r.2)
    else do
      let count := if kind = 'x' then 2 else if kind = 'u' then 4 else 8
      let (code, rest) ← readHexDigits ignoreSpace count 0 (c :: rest)
      let char ← charOf code
      return (⟨char, kind = 'x'⟩, rest)

/-! ### Properties -/

/-- The text up to a brace, and the text after the brace. -/
def readBraced (ignoreSpace : Bool) :
    Nat → List Char → Except PatternError (List Char × List Char)
  | 0, _ => .error .escapeUnfinished
  | fuel + 1, cs =>
    match skip ignoreSpace cs with
    | [] => .error .escapeUnfinished
    | c :: rest =>
      if c = '\x7d' then .ok ([], rest)
      else (readBraced ignoreSpace fuel rest).map fun r => (c :: r.1, r.2)

/-- The text before and after the first `!=`. -/
def cutAtUnequal : List Char → Option (List Char × List Char)
  | '!' :: '=' :: cs => some ([], cs)
  | c :: cs => (cutAtUnequal cs).map fun parts => (c :: parts.1, parts.2)
  | [] => none

/-- The query with this text between the braces: whether it is negated, and what it
asks for. -/
def PropertyQuery.ofText (cs : List Char) : Bool × PropertyQuery :=
  let valued (parts : List Char × List Char) : PropertyQuery :=
    .valued (String.ofList parts.1) (String.ofList parts.2)
  match cutAtUnequal cs with
  | some parts => (true, valued parts)
  | none =>
    match Text.cutAt ':' cs with
    | some parts => (false, valued parts)
    | none =>
      match Text.cutAt '=' cs with
      | some parts => (false, valued parts)
      | none => (false, .named (String.ofList cs))

/-- A property, after `p` or `P`: one letter, or a text in braces. -/
def readProperty (ignoreSpace : Bool) (negated : Bool) (cs : List Char) :
    Except PatternError ((Bool × PropertyQuery) × List Char) :=
  match skip ignoreSpace cs with
  | [] => .error .escapeUnfinished
  | c :: rest =>
    if c = '\x7b' then do
      let (text, rest) ← readBraced ignoreSpace (rest.length + 1) rest
      let (unequal, query) := PropertyQuery.ofText text
      return ((negated != unequal, query), rest)
    else if c = '\\' then .error .propertyInvalid
    else .ok ((negated, .named (String.singleton c)), rest)

/-! ### Word boundaries -/

def isBoundaryChar (c : Char) : Bool :=
  ('A' ≤ c && c ≤ 'Z') || ('a' ≤ c && c ≤ 'z') || c == '-'

def takeBoundary (ignoreSpace : Bool) : Nat → List Char → List Char × List Char
  | 0, cs => ([], cs)
  | fuel + 1, cs =>
    match cs with
    | c :: rest =>
      if isBoundaryChar c then
        let (name, rest) := takeBoundary ignoreSpace fuel (skip ignoreSpace rest)
        (c :: name, rest)
      else ([], cs)
    | [] => ([], [])

def boundaryNamed? (name : List Char) : Option Assertion :=
  [("start", Assertion.wordStart), ("end", .wordEnd), ("start-half", .wordStartHalf),
    ("end-half", .wordEndHalf)].findSome? fun entry =>
      if entry.1.toList = name then some entry.2 else none

/-- A boundary, after `b`: a brace may follow with the name of a special one. A brace
that no such name follows is the beginning of a count. -/
def readBoundary (ignoreSpace : Bool) (cs : List Char) :
    Except PatternError (Assertion × List Char) :=
  match cs with
  | '\x7b' :: rest =>
    match skip ignoreSpace rest with
    | [] => .error .wordBoundaryUnfinished
    | c :: inner =>
      if isBoundaryChar c then
        match takeBoundary ignoreSpace (inner.length + 1) (c :: inner) with
        | (name, '\x7d' :: rest) =>
          match boundaryNamed? name with
          | some boundary => .ok (boundary, rest)
          | none => .error .wordBoundaryUnrecognized
        | _ => .error .wordBoundaryUnclosed
      else .ok (.wordBoundary, cs)
  | _ => .ok (.wordBoundary, cs)

/-! ### Atoms -/

/-- What stands in a pattern for itself, outside brackets or inside. -/
inductive Atom
  | literal (l : Literal)
  | dot
  | assertion (a : Assertion)
  | short (negated : Bool) (set : ShortSet)
  | property (negated : Bool) (query : PropertyQuery)

def controlEscape? (c : Char) : Option Char :=
  if c = 'a' then some '\x07'
  else if c = 'f' then some '\x0C'
  else if c = 't' then some '\t'
  else if c = 'n' then some '\n'
  else if c = 'r' then some '\r'
  else if c = 'v' then some '\x0B'
  else none

/-- The sets with an escape of one letter, negated by a capital. -/
def shortEscape? (c : Char) : Option (Bool × ShortSet) :=
  if c = 'd' then some (false, .digit)
  else if c = 'D' then some (true, .digit)
  else if c = 's' then some (false, .space)
  else if c = 'S' then some (true, .space)
  else if c = 'w' then some (false, .word)
  else if c = 'W' then some (true, .word)
  else none

/-- The tests with an escape of one character, `\b` apart. -/
def assertionEscape? (c : Char) : Option Assertion :=
  if c = 'A' then some .textStart
  else if c = 'z' then some .textEnd
  else if c = 'B' then some .notWordBoundary
  else if c = '<' then some .wordStart
  else if c = '>' then some .wordEnd
  else none

/-- A character that a backslash leaves as it is: one of ASCII that is no letter, no
digit and no angle bracket. -/
def isLiteralEscape (c : Char) : Bool :=
  c.toNat < 0x80 && !c.isAlphanum && c != '<' && c != '>'

/-- What a backslash begins, read from the character after it. -/
def readEscape (ignoreSpace : Bool) : List Char → Except PatternError (Atom × List Char)
  | [] => .error .escapeUnfinished
  | c :: rest =>
    if c.isDigit then .error .backreference
    else if c = 'x' ∨ c = 'u' ∨ c = 'U' then
      (readHex ignoreSpace c rest).map fun r => (.literal r.1, r.2)
    else if c = 'p' ∨ c = 'P' then
      (readProperty ignoreSpace (c = 'P') rest).map fun r => (.property r.1.1 r.1.2, r.2)
    else if isLiteralEscape c then .ok (.literal ⟨c, false⟩, rest)
    else if c = 'b' then (readBoundary ignoreSpace rest).map fun r => (.assertion r.1, r.2)
    else
      match shortEscape? c with
      | some (negated, set) => .ok (.short negated set, rest)
      | none =>
        match controlEscape? c with
        | some char => .ok (.literal ⟨char, false⟩, rest)
        | none =>
          match assertionEscape? c with
          | some a => .ok (.assertion a, rest)
          | none => .error .escapeUnrecognized

end Fieldwise.Pattern
