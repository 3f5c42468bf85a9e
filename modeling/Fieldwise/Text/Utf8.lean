/-!
# Reading UTF-8 leniently

Bytes are read as UTF-8 one at a time. Every longest stretch that begins a
character but cannot be one, and every byte that can begin none, is replaced by
U+FFFD. The reader is a machine whose state says how many continuation bytes a
begun character still owes and which values the next one may have; on a byte it
refuses, the machine gives up the begun character and reads the byte afresh.
-/

namespace Fieldwise.Text

def replacement : Char := '\uFFFD'

/-- Where the reader stands between two bytes. -/
inductive Utf8State
  /-- Between characters. -/
  | ready
  /-- Inside a character: the bits read so far, the bytes still owed less one,
  and the range of the next byte. -/
  | inside (bits : Nat) (owedAfter : Nat) (low high : Nat)

/-- What a first byte gives: characters that are complete, and the state after it. -/
def Utf8State.lead (b : UInt8) : List Char × Utf8State :=
  let n := b.toNat
  if n < 0x80 then ([Char.ofNat n], .ready)
  else if n < 0xC2 then ([replacement], .ready)
  else if n < 0xE0 then ([], .inside (n - 0xC0) 0 0x80 0xBF)
  else if n = 0xE0 then ([], .inside 0 1 0xA0 0xBF)
  else if n = 0xED then ([], .inside 0xD 1 0x80 0x9F)
  else if n < 0xF0 then ([], .inside (n - 0xE0) 1 0x80 0xBF)
  else if n = 0xF0 then ([], .inside 0 2 0x90 0xBF)
  else if n < 0xF4 then ([], .inside (n - 0xF0) 2 0x80 0xBF)
  else if n = 0xF4 then ([], .inside 4 2 0x80 0x8F)
  else ([replacement], .ready)

/-- One byte: the characters it completes or gives up, and the state after it. -/
def Utf8State.step : Utf8State → UInt8 → List Char × Utf8State
  | .ready, b => lead b
  | .inside bits owedAfter low high, b =>
    if low ≤ b.toNat ∧ b.toNat ≤ high then
      let bits := bits * 64 + (b.toNat - 0x80)
      match owedAfter with
      | 0 => ([Char.ofNat bits], .ready)
      | n + 1 => ([], .inside bits n 0x80 0xBF)
    else (replacement :: (lead b).1, (lead b).2)

/-- What the end of the bytes gives: a begun character is given up. -/
def Utf8State.finish : Utf8State → List Char
  | .ready => []
  | .inside .. => [replacement]

/-- The characters of the bytes, from a state on. -/
def Utf8State.run : Utf8State → List UInt8 → List Char
  | state, [] => state.finish
  | state, b :: bytes => (state.step b).1 ++ run (state.step b).2 bytes

/-- The text of the bytes, with U+FFFD for what is not UTF-8. -/
def ofUtf8Lossy (bytes : ByteArray) : String :=
  String.ofList (Utf8State.ready.run bytes.data.toList)

end Fieldwise.Text
