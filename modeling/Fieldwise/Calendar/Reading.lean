import Fieldwise.Calendar.Layout
import Fieldwise.Number.Integer
import Fieldwise.Number.Power

/-!
# Reading a point in time

A text is read item by item; each item takes characters from the front and sets
fields. The text has to end with the last item. With a layout of one's own the
fields are resolved in turn as a timestamp, a local time, a date and a time of
day, and the first that succeeds counts; a local reading is taken as UTC, a date
alone at midnight, a time alone on 1970-01-01.
-/

namespace Fieldwise.Calendar

/-! ### Scanning

A scanner gives what it found and the text after it. -/

/-- A number of at least `least` digits, no more than `most` of which are read; it has to
fit in 64 bits with a sign. -/
def scanNumber (least : Nat) (most : Option Nat) (cs : List Char) :
    Except ReadError (Int × List Char) :=
  let digits := (match most with
    | some most => cs.take most
    | none => cs).takeWhile Char.isDigit
  if Text.byteLength cs < least then .error .tooShort
  else if digits.length < least then .error .invalid
  else
    let n := Nat.ofDigitChars 10 digits 0
    if n < 9223372036854775808 then .ok (n, cs.drop digits.length) else .error .outOfRange

def scanChar (c : Char) : List Char → Except ReadError (List Char)
  | [] => .error .tooShort
  | d :: cs => if d = c then .ok cs else .error .invalid

/-- Up to nine digits of a fraction of a second, in nanoseconds; more are skipped. -/
def scanFraction (cs : List Char) : Except ReadError (Int × List Char) := do
  let (n, rest) ← scanNumber 1 (some 9) cs
  return (n * Number.tenPow (9 - (cs.length - rest.length)), rest.dropWhile Char.isDigit)

/-- Exactly so many digits of a fraction of a second, in nanoseconds. -/
def scanFractionOf (digits : Nat) (cs : List Char) : Except ReadError (Int × List Char) := do
  let (n, rest) ← scanNumber digits (some digits) cs
  return (n * Number.tenPow (9 - digits), rest)

/-- The text after a word, if it starts with it in any case. -/
def dropWord? : List Char → List Char → Option (List Char)
  | [], cs => some cs
  | _ :: _, [] => none
  | w :: word, c :: cs => if w = c.toLower then dropWord? word cs else none

/-- The names of the months, as the three letters of the short form and the rest. -/
def monthNames : List (String × String) :=
  [("jan", "uary"), ("feb", "ruary"), ("mar", "ch"), ("apr", "il"), ("may", ""), ("jun", "e"),
    ("jul", "y"), ("aug", "ust"), ("sep", "tember"), ("oct", "ober"), ("nov", "ember"),
    ("dec", "ember")]

/-- The names of the days of the week, as the short form and the rest. -/
def weekdayNames : List (String × String) :=
  [("mon", "day"), ("tue", "sday"), ("wed", "nesday"), ("thu", "rsday"), ("fri", "day"),
    ("sat", "urday"), ("sun", "day")]

/-- The place of the name in a list, from 0. With `full`, the rest of the name is
taken too where it follows. -/
def scanName (names : List (String × String)) (full : Bool) (cs : List Char) :
    Except ReadError (Nat × List Char) :=
  if Text.byteLength cs < 3 then .error .tooShort
  else
    let found := names.zipIdx.findSome? fun ((short, rest), i) =>
      (dropWord? short.toList cs).map fun cs =>
        (i, if full then (dropWord? rest.toList cs).getD cs else cs)
    match found with
    | some r => .ok r
    | none => .error .invalid

/-- The half of the day: `am` or `pm` in any case; true for the second half. -/
def scanHalf (cs : List Char) : Except ReadError (Bool × List Char) :=
  if Text.byteLength cs < 2 then .error .tooShort
  else match dropWord? ['a', 'm'] cs, dropWord? ['p', 'm'] cs with
    | some rest, _ => .ok (false, rest)
    | none, some rest => .ok (true, rest)
    | none, none => .error .invalid

/-- Two digits, if there are two characters at all. -/
def twoDigits (cs : List Char) : Except ReadError (Nat × List Char) :=
  if Text.byteLength cs < 2 then .error .tooShort
  else match cs with
    | a :: b :: rest =>
      if a.isDigit && b.isDigit then .ok (Nat.ofDigitChars 10 [a, b] 0, rest) else .error .invalid
    | _ => .error .invalid

/-- The text after any colons and blanks. -/
def skipColons (cs : List Char) : Except ReadError (List Char) :=
  .ok (cs.dropWhile fun c => c == ':' || Text.isBlank c)

/-- An offset from UTC in seconds: a sign, two digits of hours, a separator and two
digits of minutes. The minus sign may be U+2212. `zulu` admits the letter `Z`, and
`short` the end of the text in place of the minutes. -/
def scanOffset (separator : List Char → Except ReadError (List Char)) (zulu short : Bool)
    (cs : List Char) : Except ReadError (Int × List Char) :=
  match cs with
  | [] => .error .tooShort
  | c :: rest =>
    if zulu && (c == 'Z' || c == 'z') then .ok (0, rest)
    else if c != '+' && c != '-' && c != '\u2212' then .error .invalid
    else do
      let (hours, rest) ← twoDigits rest
      let rest ← separator rest
      let (minutes, rest) ←
        if Text.byteLength rest < 2 then
          if short && rest == [] then pure (0, []) else .error .tooShort
        else twoDigits rest
      if 60 ≤ minutes then .error .outOfRange
      else
        let seconds : Int := hours * 3600 + minutes * 60
        return (if c == '+' then seconds else -seconds, rest)

/-! ### Items -/

/-- The width of a number, where no sign makes it free; only years have a sign. -/
def NumberField.width : NumberField → Option Nat
  | .year | .isoYear => some 4
  | .quarter | .weekdayFromSunday | .weekdayFromMonday => some 1
  | .ordinal => some 3
  | .nano => some 9
  | .timestamp | .offset => none
  | _ => some 2

/-- A number, after blanks. -/
def NumberField.scan (field : NumberField) (cs : List Char) : Except ReadError (Int × List Char) :=
  let cs := Text.trimStart cs
  if field = .year ∨ field = .isoYear then
    match cs with
    | '-' :: rest => do
      let (n, rest) ← scanNumber 1 none rest
      return (-n, rest)
    | '+' :: rest => scanNumber 1 none rest
    | _ => scanNumber 1 field.width cs
  else scanNumber 1 field.width cs

def readNumber (field : NumberField) (f : Fields) (cs : List Char) :
    Except ReadError (Fields × List Char) := do
  let (n, rest) ← field.scan cs
  return (← f.set field n, rest)

def readInto (field : NumberField) (f : Fields) (found : Except ReadError (Int × List Char)) :
    Except ReadError (Fields × List Char) := do
  let (n, rest) ← found
  return (← f.set field n, rest)

/-- Exactly these characters. -/
def scanLiteral (literal cs : List Char) : Except ReadError (List Char) :=
  if Text.byteLength cs < Text.byteLength literal then .error .tooShort
  else match Text.dropPrefix? literal cs with
    | some rest => .ok rest
    | none => .error .invalid

/-- Numbers with the same character between them, and blanks allowed before each
character. -/
def readSpaced (separator : Char) (f : Fields) (cs : List Char) :
    List NumberField → Except ReadError (Fields × List Char)
  | [] => .ok (f, cs)
  | [field] => readNumber field f cs
  | field :: rest => do
    let (f, cs) ← readNumber field f cs
    let cs ← scanLiteral [separator] (Text.trimStart cs)
    readSpaced separator f cs rest

/-- The letter `T` or a blank between a date and a time. -/
def scanT : List Char → Except ReadError (List Char)
  | [] => .error .tooShort
  | c :: cs => if c = 'T' ∨ c = 't' ∨ c = ' ' then .ok cs else .error .invalid

/-- A fraction of a second, if there is a point. -/
def readFraction (f : Fields) : List Char → Except ReadError (Fields × List Char)
  | '.' :: cs => readInto .nano f (scanFraction cs)
  | cs => .ok (f, cs)

/-- A date, time and offset with blanks between the parts; the offset may be `Z`
or `UTC`. -/
def readInternetTime (f : Fields) (cs : List Char) : Except ReadError (Fields × List Char) := do
  let (f, cs) ← readSpaced '-' f cs [.year, .month, .day]
  let cs ← scanT cs
  let (f, cs) ← readSpaced ':' f cs [.hour, .minute, .second]
  let (f, cs) ← readFraction f cs
  let cs := Text.trimStart cs
  match dropWord? ['u', 't', 'c'] cs with
  | some rest => readInto .offset f (.ok (0, rest))
  | none => readInto .offset f (scanOffset skipColons true false cs)

def LayoutItem.read (item : LayoutItem) (f : Fields) (cs : List Char) :
    Except ReadError (Fields × List Char) :=
  match item with
  | .literal text => do return (f, ← scanLiteral text cs)
  | .blank => .ok (f, Text.trimStart cs)
  | .number field => readNumber field f cs
  | .monthName full => do
    let (i, rest) ← scanName monthNames full cs
    return (← f.set .month (i + 1), rest)
  | .weekdayName full => do
    let (i, rest) ← scanName weekdayNames full cs
    return (← f.setWeekday (.ofIndex i), rest)
  | .halfOfDay => do
    let (afternoon, rest) ← scanHalf cs
    return (← f.setAfternoon afternoon, rest)
  | .fraction => readFraction f cs
  | .pointedFraction digits =>
    match cs with
    | '.' :: rest => readInto .nano f (scanFractionOf digits rest)
    | _ => .ok (f, cs)
  | .bareFraction digits => readInto .nano f (scanFractionOf digits cs)
  | .zoneName => .ok (f, cs.dropWhile fun c => !Text.isBlank c)
  | .offset lenient =>
    readInto .offset f (scanOffset skipColons lenient lenient (Text.trimStart cs))
  | .internetTime => readInternetTime f cs
  | .invalid => .error .badLayout

/-- Reads the items one after another. -/
def readItems (f : Fields) (cs : List Char) :
    List LayoutItem → Except ReadError (Fields × List Char)
  | [] => .ok (f, cs)
  | item :: items => do
    let (f, cs) ← item.read f cs
    readItems f cs items

/-- The fields that a text gives, where nothing follows the last item. -/
def readFields (items : List LayoutItem) (cs : List Char) : Except ReadError Fields := do
  let (f, rest) ← readItems {} cs items
  if rest = [] then return f else .error .tooLong

/-! ### RFC 3339 -/

/-- A number of exactly so many digits. -/
def scanDigits (count : Nat) (cs : List Char) : Except ReadError (Nat × List Char) :=
  let digits := cs.take count
  if digits.length = count ∧ digits.all Char.isDigit then
    .ok (Nat.ofDigitChars 10 digits 0, cs.drop count)
  else .error .invalid

/-- Three numbers with a character between them, the first of so many digits and the
others of two. -/
def scanTriple (separator : Char) (digits : Nat) (cs : List Char) :
    Except ReadError ((Nat × Nat × Nat) × List Char) := do
  let (a, cs) ← scanDigits digits cs
  let (b, cs) ← scanDigits 2 (← scanChar separator cs)
  let (c, cs) ← scanDigits 2 (← scanChar separator cs)
  return ((a, b, c), cs)

/-- A fraction of a second in nanoseconds, zero if there is no point. -/
def scanPointed : List Char → Except ReadError (Int × List Char)
  | '.' :: cs => scanFraction cs
  | cs => .ok (0, cs)

/-- What there has to be; otherwise something was out of range. -/
def orOutOfRange {α : Type} : Option α → Except ReadError α
  | some a => .ok a
  | none => .error .outOfRange

/-- The time of day with these parts; a sixtieth second is a leap second. -/
def clockTime (hour minute second nano : Nat) : Option TimeOfDay :=
  if second = 60 then TimeOfDay.ofParts? hour minute 59 (1000000000 + nano)
  else TimeOfDay.ofParts? hour minute second nano

/-- The number of octets in RFC 3339 before the fraction and the offset. -/
def rfc3339Length : Nat := 19

/-- A timestamp in RFC 3339: four digits of the year and two of everything else, no
blanks, and an offset of less than a day. A text too short for the date and time is
refused first. -/
def readRfc3339 (cs : List Char) : Except ReadError Timestamp :=
  if Text.byteLength cs < rfc3339Length then .error .tooShort
  else do
    let ((year, month, day), cs) ← scanTriple '-' 4 cs
    let date ← orOutOfRange (Date.ofYmd? year month day)
    let ((hour, minute, second), cs) ← scanTriple ':' 2 (← scanT cs)
    let (nano, cs) ← scanPointed cs
    let time ← orOutOfRange (clockTime hour minute second nano.toNat)
    let (offset, cs) ← scanOffset (scanChar ':') true false cs
    if cs = [] then orOutOfRange (Timestamp.ofLocal? ⟨date, time⟩ offset) else .error .tooLong

/-! ### Reading with a layout -/

/-- The text read with the items of a layout, as a timestamp, a local time, a date
or a time of day, whichever comes first; the error is that of the first. -/
def readCustom (items : List LayoutItem) (cs : List Char) : Except ReadError Timestamp := do
  let f ← readFields items cs
  match f.zoned, f.localTime 0, f.date, f.time with
  | .ok t, _, _, _ => return t
  | _, .ok clock, _, _ => return .utc clock
  | _, _, .ok date, _ => return .utc ⟨date, .midnight⟩
  | _, _, _, .ok time => return .utc ⟨.epochDay, time⟩
  | .error e, _, _, _ => .error e

def Layout.read (layout : Layout) (cs : List Char) : Except ReadError Timestamp :=
  match layout with
  | .date => do
    let f ← readFields (LayoutItem.separated "-" [.year, .month, .day]) cs
    return .utc ⟨← f.date, .midnight⟩
  | .time => do
    let f ← readFields (LayoutItem.separated ":" [.hour, .minute, .second]) cs
    return .utc ⟨.epochDay, ← f.time⟩
  | .dateTime => readRfc3339 cs
  | .custom layout => readCustom (LayoutItem.ofLayout layout.toList) cs

end Fieldwise.Calendar
