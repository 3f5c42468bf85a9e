import Fieldwise.Calendar.Timestamp
import Fieldwise.FieldMap
import Fieldwise.Json.Basic
import Fieldwise.Text.Utf8

/-!
# Field values

A value is what a record holds under a name: a closed set of kinds, so that every
reading of a value is a total function on them. Each value has a text form.
-/

namespace Fieldwise

open Calendar (Timestamp)
open Number (Binary64)

/-- What a record can hold in a field. The names of a map are distinct when it is
built by `ofEntries`. -/
inductive Value
  | null
  | bool (b : Bool)
  | int (n : Int64)
  | uint (n : UInt64)
  | float (x : Binary64)
  | text (s : String)
  | bytes (data : ByteArray)
  | timestamp (t : Timestamp)
  | list (items : List Value)
  | map (entries : List (String × Value))

namespace Value

/-- The map of these entries, where a later entry replaces an earlier one of its
name and keeps its place. -/
def ofEntries (entries : List (String × Value)) : Value := .map (FieldMap.ofList entries).entries

def typeName : Value → String
  | null => "null"
  | bool _ => "boolean"
  | int _ => "integer"
  | uint _ => "integer"
  | float _ => "float"
  | text _ => "text"
  | bytes _ => "bytes"
  | timestamp _ => "timestamp"
  | list _ => "list"
  | map _ => "map"

/-- The text of a value that is native text. -/
def asText : Value → Option String
  | text s => some s
  | _ => none

/-- The point in time of a value that is a native one. -/
def asTimestamp : Value → Option Timestamp
  | timestamp t => some t
  | _ => none

/-! ### The text form -/

mutual

/-- The text form: numbers in decimal, bytes read as UTF-8, timestamps in RFC 3339,
lists in brackets and maps in braces. -/
def chars : Value → List Char
  | .null => "null".toList
  | .bool b => if b then "true".toList else "false".toList
  | .int n => Number.integer n.toInt
  | .uint n => Number.natural n.toNat
  | .float x => x.chars
  | .text s => s.toList
  | .bytes data => (Text.ofUtf8Lossy data).toList
  | .timestamp t => t.chars
  | .list items => '[' :: listChars true items
  | .map entries => '\x7b' :: mapChars true entries

/-- The items of a list that are left, and the bracket after them. -/
def listChars (first : Bool) : List Value → List Char
  | [] => [']']
  | item :: rest => (if first then [] else [',', ' ']) ++ (item.chars ++ listChars false rest)

/-- The entries of a map that are left, and the brace after them. -/
def mapChars (first : Bool) : List (String × Value) → List Char
  | [] => ['\x7d']
  | (key, value) :: rest =>
    (if first then [] else [',', ' ']) ++
      (key.toList ++ ':' :: ' ' :: (value.chars ++ mapChars false rest))

end

/-- The text form, as a string. -/
def toText (v : Value) : String := String.ofList v.chars

theorem toText_text (s : String) : (text s).toText = s := by
  simp [toText, chars, String.ofList_toList]

/-! ### From JSON -/

mutual

def ofJson : Json → Value
  | .null => .null
  | .bool b => .bool b
  | .int n => .int n
  | .uint n => .uint n
  | .float x => .float x
  | .text s => .text s
  | .list items => .list (ofJsonList items)
  | .object members => .map (ofJsonMembers members)

def ofJsonList : List Json → List Value
  | [] => []
  | item :: rest => ofJson item :: ofJsonList rest

def ofJsonMembers : List (String × Json) → List (String × Value)
  | [] => []
  | (name, item) :: rest => (name, ofJson item) :: ofJsonMembers rest

end

end Value

end Fieldwise
