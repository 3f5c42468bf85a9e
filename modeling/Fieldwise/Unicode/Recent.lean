import Fieldwise.Unicode.Category
import Fieldwise.Unicode.Property.Identifiers
import Fieldwise.Unicode.Property.Letters

/-!
# Recent characters

The tables of properties are those of version 16 of the standard, which patterns ask.
Names are read and texts are shown by version 17. What it says of older characters is the
same, as far as it is asked here, so the characters that it added are all that is missing.
-/

namespace Fieldwise.Unicode

/-! ### What version 17 added -/

/-- The characters that version 17 added; all have a visible form. -/
def recent : RangeSet := .ofRuns
  "
    2191 1 972 1 127 1 3570 15 2 12 1493 1 2772 1 31799 2 2 1 1 1 28 1 21457 16 445 2 54 7 2929 26
    1387 3 8 9 33 2 3172 8 584 44 4 10 20662 25 2 25 286 5 6145 8 1289 22 97 115 16135 3 445 23 15
    17 6095 31 1 22 8 2 4056 1 158 4 341 9 379 4 50 1 3 1 57 1 4 1 28 1 4 1 266 1 47935 6 5986 12
    21762 4298"

def recentAlphabetic : RangeSet := .ofRuns
  "
    2191 1 972 1 127 1 39665 2 2 1 1 1 28 1 24910 26 1387 3 50 2 3172 8 584 44 20676 25 2 25 286 5
    6145 8 1289 22 97 115 22733 31 1 22 8 2 53306 6 5986 12 21762 4298"

def recentNumbers : RangeSet := .ofRuns
  "
    73184 10 21002 3"

/-- Those among them that extend the character before. -/
def recentExtending : RangeSet := .ofRuns
  "
    6863 15 2 12 62478 2 3172 1 1 3 1 1 52092 1 2 1 7 2 5 1"

/-! ### Characters by version 17 -/

def isAlphabetic (c : Char) : Bool := Property.alphabetic.contains c || recentAlphabetic.contains c

def isNumeric (c : Char) : Bool := (category c).isNumber || recentNumbers.contains c

/-- A character that extends the one before. -/
def isExtending (c : Char) : Bool :=
  Property.graphemeExtend.contains c || recentExtending.contains c

def isVisible (c : Char) : Bool := (category c).isVisible || recent.contains c

end Fieldwise.Unicode
