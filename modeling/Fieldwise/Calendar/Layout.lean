import Fieldwise.Calendar.Fields
import Fieldwise.Text.Blank

/-!
# Time layouts

A layout says how a point in time is written: characters that stand for
themselves, blanks, and directives, which begin with a percent sign. It is read
into items, one for each thing that a text has to show. A directive that does
not exist becomes the item `invalid`, which no text satisfies.
-/

namespace Fieldwise.Calendar

/-- One thing that a layout asks for. -/
inductive LayoutItem
  /-- Exactly these characters. -/
  | literal (text : List Char)
  /-- Any number of blanks. -/
  | blank
  /-- A number. -/
  | number (field : NumberField)
  /-- The name of a month, short, or also in full. -/
  | monthName (full : Bool)
  /-- The name of a day of the week, short, or also in full. -/
  | weekdayName (full : Bool)
  /-- The half of the day. -/
  | halfOfDay
  /-- A point and a fraction of a second, or nothing. -/
  | fraction
  /-- A point and this many digits of a fraction, or nothing. -/
  | pointedFraction (digits : Nat)
  /-- This many digits of a fraction. -/
  | bareFraction (digits : Nat)
  /-- The name of a time zone, which is skipped. -/
  | zoneName
  /-- An offset from UTC; a lenient one may be `Z` and may lack its minutes. -/
  | offset (lenient : Bool)
  /-- A date, time and offset in the manner of RFC 3339, blanks allowed. -/
  | internetTime
  /-- No directive. -/
  | invalid
deriving DecidableEq, Repr

namespace LayoutItem

def separated (separator : String) : List NumberField → List LayoutItem
  | [] => []
  | [field] => [number field]
  | field :: rest => number field :: literal separator.toList :: separated separator rest

/-- The number that a directive of one letter asks for. -/
def numberFor : Char → Option NumberField
  | 'C' => some .century
  | 'G' => some .isoYear
  | 'H' => some .hour
  | 'I' => some .hour12
  | 'M' => some .minute
  | 'S' => some .second
  | 'U' => some .weekFromSunday
  | 'V' => some .isoWeek
  | 'W' => some .weekFromMonday
  | 'Y' => some .year
  | 'd' => some .day
  | 'e' => some .day
  | 'f' => some .nano
  | 'g' => some .isoYearOfCentury
  | 'j' => some .ordinal
  | 'k' => some .hour
  | 'l' => some .hour12
  | 'm' => some .month
  | 'q' => some .quarter
  | 's' => some .timestamp
  | 'u' => some .weekdayFromMonday
  | 'w' => some .weekdayFromSunday
  | 'y' => some .yearOfCentury
  | _ => none

/-- The items of a directive of one letter that is not a number. -/
def compound : Char → List LayoutItem
  | 'A' => [weekdayName true]
  | 'B' => [monthName true]
  | 'D' => separated "/" [.month, .day, .yearOfCentury]
  | 'F' => separated "-" [.year, .month, .day]
  | 'P' => [halfOfDay]
  | 'R' => separated ":" [.hour, .minute]
  | 'T' => separated ":" [.hour, .minute, .second]
  | 'X' => separated ":" [.hour, .minute, .second]
  | 'Z' => [zoneName]
  | 'a' => [weekdayName false]
  | 'b' => [monthName false]
  | 'c' =>
    [weekdayName false, blank, monthName false, blank, number .day, blank] ++
      separated ":" [.hour, .minute, .second] ++ [blank, number .year]
  | 'h' => [monthName false]
  | 'n' => [blank]
  | 'p' => [halfOfDay]
  | 'r' => separated ":" [.hour12, .minute, .second] ++ [blank, halfOfDay]
  | 't' => [blank]
  | 'v' => [number .day, literal ['-'], monthName false, literal ['-'], number .year]
  | 'x' => separated "/" [.month, .day, .yearOfCentury]
  | 'z' => [offset false]
  | '+' => [internetTime]
  | '%' => [literal ['%']]
  | _ => [invalid]

/-- The items of the directive whose text follows a percent sign, and the text
after it. A padding mark `-`, `0` or `_` may stand before a number and before
nothing else. -/
def directive : List Char → List LayoutItem × List Char
  | '.' :: 'f' :: rest => ([fraction], rest)
  | '.' :: '3' :: 'f' :: rest => ([pointedFraction 3], rest)
  | '.' :: '6' :: 'f' :: rest => ([pointedFraction 6], rest)
  | '.' :: '9' :: 'f' :: rest => ([pointedFraction 9], rest)
  | '3' :: 'f' :: rest => ([bareFraction 3], rest)
  | '6' :: 'f' :: rest => ([bareFraction 6], rest)
  | '9' :: 'f' :: rest => ([bareFraction 9], rest)
  | ':' :: 'z' :: rest => ([offset false], rest)
  | ':' :: ':' :: 'z' :: rest => ([offset false], rest)
  | ':' :: ':' :: ':' :: 'z' :: rest => ([offset false], rest)
  | '#' :: 'z' :: rest => ([offset true], rest)
  | [] => ([invalid], [])
  | [c] => (match numberFor c with
    | some field => [number field]
    | none => compound c, [])
  | c :: d :: rest =>
    if c = '-' ∨ c = '0' ∨ c = '_' then
      (match numberFor d with
      | some field => [number field]
      | none => [invalid], rest)
    else
      (match numberFor c with
      | some field => [number field]
      | none => compound c, d :: rest)

theorem length_directive_le (cs : List Char) : (directive cs).2.length ≤ cs.length := by
  unfold directive
  repeat' split
  all_goals simp only [List.length_cons, List.length_nil]
  all_goals omega

/-- A character that is neither blank nor the beginning of a directive. -/
def isPlain (c : Char) : Bool := !Text.isBlank c && c != '%'

/-- The items of a layout: runs of blanks, runs of plain characters, and
directives. -/
def ofLayout : List Char → List LayoutItem
  | [] => []
  | c :: cs =>
    if c = '%' then (directive cs).1 ++ ofLayout (directive cs).2
    else if Text.isBlank c then blank :: ofLayout (cs.dropWhile Text.isBlank)
    else literal (c :: cs.takeWhile isPlain) :: ofLayout (cs.dropWhile isPlain)
termination_by cs => cs.length
decreasing_by
  · have := length_directive_le cs
    simp only [List.length_cons]
    omega
  · have := (List.dropWhile_sublist (l := cs) Text.isBlank).length_le
    simp only [List.length_cons]
    omega
  · have := (List.dropWhile_sublist (l := cs) isPlain).length_le
    simp only [List.length_cons]
    omega

end LayoutItem

/-! ### The layouts of the library -/

/-- How a point in time is written: a date, a time of day, RFC 3339, or a layout. -/
inductive Layout
  | date
  | time
  | dateTime
  | custom (layout : String)
deriving DecidableEq, Repr

namespace Layout

/-- The layout text; there is none for RFC 3339. -/
def pattern : Layout → Option String
  | date => some "%Y-%m-%d"
  | time => some "%H:%M:%S"
  | dateTime => none
  | custom layout => some layout

/-- The form shown to a reader. -/
def describe : Layout → String
  | date => "YYYY-MM-DD"
  | time => "HH:MM:SS"
  | dateTime => "RFC 3339"
  | custom layout => layout

/-- A layout text that can be used: it is not blank, and all its directives exist. -/
def isUsable (layout : String) : Bool :=
  Text.trim layout.toList != [] && !(LayoutItem.ofLayout layout.toList).contains .invalid

end Layout

end Fieldwise.Calendar
