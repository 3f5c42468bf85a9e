import Fieldwise.Calendar.Reading
import Fieldwise.Value.Basic

/-!
# Reading values as numbers and points in time

A constraint asks for a value as an integer, as text or as a point in time. Text
is always there. An integer may not be, and then a bound does not apply. A point
in time may not be, and then there is a reason, which is reported.
-/

namespace Fieldwise

open Calendar (Layout ReadError Timestamp)
open Number (Binary64)

namespace Value

/-! ### Empty values -/

/-- Values that count as not filled in: null, empty text, bytes and collections,
false, and zeros. -/
def isEmpty : Value → Bool
  | null => true
  | bool b => !b
  | int n => n == 0
  | uint n => n == 0
  | float x => x.isZero
  | text s => s.isEmpty
  | bytes data => data.isEmpty
  | timestamp _ => false
  | list items => items.isEmpty
  | map entries => entries.isEmpty

/-! ### Integers -/

/-- The integer form, moved to the nearest end of the 64-bit range where it lies
outside: numbers lose their fraction, and text is read as a decimal integer of at
most 128 bits with blanks around it. -/
def toInteger : Value → Option Int64
  | int n => some n
  | uint n => some (Int64.ofIntClamp n.toNat)
  | float .nan => none
  | float (.infinity negative) => some (if negative then Int64.minValue else Int64.maxValue)
  | float (.finite x) => some (Int64.ofIntClamp x.truncate)
  | text s => (Number.readSigned 128 (Text.trim s.toList)).map Int64.ofIntClamp
  | _ => none

end Value

/-! ### Points in time -/

/-- A text that does not show a point in time in the layout asked for. -/
structure CoercionError where
  text : String
  layout : Layout
  reason : ReadError
deriving DecidableEq

def CoercionError.message (e : CoercionError) : String :=
  s!"'{e.text}' does not match time layout '{e.layout.describe}': {e.reason.message}"

/-- The value as a point in time: a timestamp is one in every layout, and anything
else is read from its text form without the blanks around it. -/
def Value.toTimestamp (layout : Layout) : Value → Except CoercionError Timestamp
  | .timestamp t => .ok t
  | v =>
    let text := Text.trim v.chars
    match layout.read text with
    | .ok t => .ok t
    | .error reason => .error ⟨String.ofList text, layout, reason⟩

end Fieldwise
