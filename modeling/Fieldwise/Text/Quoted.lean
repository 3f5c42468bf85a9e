import Fieldwise.Unicode.Property.Signs
import Fieldwise.Unicode.Recent

/-!
# Quoted text

A text is shown between quotes with every character visible: the quote, the
backslash and four control characters are escaped by a letter, and any other
character that has no form of its own, or joins the one before it, is shown by its
code point in hexadecimal.
-/

namespace Fieldwise.Text

/-- The two voicing marks of half width: they take a place of their own after a letter. -/
def isHalfwidthMark (c : Char) : Bool := c.toNat == 0xFF9E || c.toNat == 0xFF9F

/-- A character that is shown by its code point: a mark that extends the character
before it, one that a display may leave out, or one without a visible form, the space
apart. -/
def isHidden (c : Char) : Bool :=
  if c.toNat < 0x7F then c.toNat < 0x20
  else
    (Unicode.isExtending c && !isHalfwidthMark c) ||
      Unicode.Property.defaultIgnorableCodePoint.contains c || !Unicode.isVisible c

def quoteChar (c : Char) : List Char :=
  if c = '\x00' then ['\\', '0']
  else if c = '\t' then ['\\', 't']
  else if c = '\n' then ['\\', 'n']
  else if c = '\r' then ['\\', 'r']
  else if c = '"' then ['\\', '"']
  else if c = '\\' then ['\\', '\\']
  else if isHidden c then '\\' :: 'u' :: '\x7b' :: (Nat.toDigits 16 c.toNat ++ ['\x7d'])
  else [c]

def quote (s : String) : String := String.ofList ('"' :: (s.toList.flatMap quoteChar ++ ['"']))

/-- Texts between quotes, in brackets. -/
def quoteList (items : List String) : String :=
  "[" ++ String.intercalate ", " (items.map quote) ++ "]"

end Fieldwise.Text
