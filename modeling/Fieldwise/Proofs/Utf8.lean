import Fieldwise.Number.Power
import Fieldwise.Text.Utf8

/-!
# Reading what UTF-8 encodes

The lenient reader gives every text back from its UTF-8 form. The first byte of a character
puts the reader inside it with the bits above the continuation bytes, each of these adds six
bits, and the last one completes the character and leaves the reader between characters. What
follows does not matter, so a text is read back character by character.
-/

namespace Fieldwise.Text

namespace Utf8State

/-! ### Continuation bytes -/

/-- The last bytes of a number, six bits in each, the highest first. -/
def continuation : Nat → Nat → List UInt8
  | 0, _ => []
  | n + 1, v => UInt8.ofNat (v / Number.twoPow (6 * n) % 64 + 128) :: continuation n v

theorem twoPow_six_mul_succ (n : Nat) :
    Number.twoPow (6 * (n + 1)) = Number.twoPow (6 * n) * 64 := by
  rw [Nat.mul_succ, Number.twoPow_add]
  rfl

theorem continuation_one (v : Nat) : continuation 1 v = [UInt8.ofNat (v % 64 + 128)] := by
  rw [continuation, continuation, Nat.mul_zero, Number.twoPow_zero, Nat.div_one]

theorem continuation_two (v : Nat) :
    continuation 2 v = [UInt8.ofNat (v / 64 % 64 + 128), UInt8.ofNat (v % 64 + 128)] := by
  rw [continuation, continuation_one]
  rfl

theorem continuation_three (v : Nat) :
    continuation 3 v = [UInt8.ofNat (v / 4096 % 64 + 128), UInt8.ofNat (v / 64 % 64 + 128),
      UInt8.ofNat (v % 64 + 128)] := by
  rw [continuation, continuation_two]
  rfl

theorem toNat_continuation (v : Nat) : (UInt8.ofNat (v % 64 + 128)).toNat = v % 64 + 128 := by
  rw [UInt8.toNat_ofNat']
  omega

theorem bits_continuation (n v : Nat) :
    v / Number.twoPow (6 * (n + 1)) * 64 + (v / Number.twoPow (6 * n) % 64 + 128 - 128) =
      v / Number.twoPow (6 * n) := by
  rw [twoPow_six_mul_succ, ← Nat.div_div_eq_div_mul]
  omega

theorem step_last (v low high : Nat) (hlow : low ≤ v % 64 + 128) (hhigh : v % 64 + 128 ≤ high) :
    (inside (v / 64) 0 low high).step (UInt8.ofNat (v % 64 + 128)) = ([Char.ofNat v], ready) := by
  have hbits : v / 64 * 64 + (v % 64 + 128 - 128) = v := by omega
  simp only [step, toNat_continuation, hlow, hhigh, and_self, ↓reduceIte, hbits]

theorem step_next (n v low high : Nat) (hlow : low ≤ v / Number.twoPow (6 * (n + 1)) % 64 + 128)
    (hhigh : v / Number.twoPow (6 * (n + 1)) % 64 + 128 ≤ high) :
    (inside (v / Number.twoPow (6 * (n + 2))) (n + 1) low high).step
        (UInt8.ofNat (v / Number.twoPow (6 * (n + 1)) % 64 + 128)) =
      ([], inside (v / Number.twoPow (6 * (n + 1))) n 0x80 0xBF) := by
  have hbits := bits_continuation (n + 1) v
  simp only [step, toNat_continuation, hlow, hhigh, and_self, ↓reduceIte, hbits]

/-- Inside a character whose upper bits are read, the bytes that are owed complete it. -/
theorem run_inside (n v low high : Nat) (rest : List UInt8)
    (hlow : low ≤ v / Number.twoPow (6 * n) % 64 + 128)
    (hhigh : v / Number.twoPow (6 * n) % 64 + 128 ≤ high) :
    (inside (v / Number.twoPow (6 * (n + 1))) n low high).run (continuation (n + 1) v ++ rest) =
      Char.ofNat v :: ready.run rest := by
  induction n generalizing low high with
  | zero =>
    rw [Nat.mul_zero, Number.twoPow_zero, Nat.div_one] at hlow hhigh
    have hstep := step_last v low high hlow hhigh
    have hupper : Number.twoPow (6 * (0 + 1)) = 64 := rfl
    rw [hupper, continuation_one, List.cons_append, List.nil_append, run, hstep]
    rfl
  | succ n ih =>
    have hstep := step_next n v low high hlow hhigh
    have hrest := ih 0x80 0xBF (by omega) (by omega)
    rw [continuation, List.cons_append, run, hstep, hrest, List.nil_append]

/-! ### First bytes -/

theorem lead_one (v : Nat) (h : v ≤ 0x7F) : lead (UInt8.ofNat v) = ([Char.ofNat v], ready) := by
  have hbyte : (UInt8.ofNat v).toNat = v := by
    rw [UInt8.toNat_ofNat']
    omega
  have hlow : v < 0x80 := by omega
  simp only [lead, hbyte, hlow, ↓reduceIte]

theorem lead_two (v : Nat) (hlow : 0x7F < v) (hhigh : v ≤ 0x7FF) :
    lead (UInt8.ofNat (v / 64 % 32 + 192)) = ([], inside (v / 64) 0 0x80 0xBF) := by
  have hbyte : (UInt8.ofNat (v / 64 % 32 + 192)).toNat = v / 64 + 192 := by
    rw [UInt8.toNat_ofNat']
    omega
  have hrange : ¬v / 64 + 192 < 0x80 ∧ ¬v / 64 + 192 < 0xC2 ∧ v / 64 + 192 < 0xE0 := by omega
  have hbits : v / 64 + 192 - 0xC0 = v / 64 := by omega
  simp only [lead, hbyte, hrange, ↓reduceIte, hbits]

/-- The first of three bytes; the surrogates, which are no characters, bound the second. -/
theorem lead_three (v : Nat) (hlow : 0x7FF < v) (hhigh : v ≤ 0xFFFF)
    (hvalid : v < 0xD800 ∨ 0xDFFF < v) :
    ∃ low high, lead (UInt8.ofNat (v / 4096 % 16 + 224)) = ([], inside (v / 4096) 1 low high) ∧
      low ≤ v / 64 % 64 + 128 ∧ v / 64 % 64 + 128 ≤ high := by
  have hbyte : (UInt8.ofNat (v / 4096 % 16 + 224)).toNat = v / 4096 + 224 := by
    rw [UInt8.toNat_ofNat']
    omega
  have hrange : ¬v / 4096 + 224 < 0x80 ∧ ¬v / 4096 + 224 < 0xC2 ∧ ¬v / 4096 + 224 < 0xE0 := by
    omega
  simp only [lead, hbyte, hrange, ↓reduceIte]
  by_cases hfirst : v / 4096 = 0
  · have hsecond : 0xA0 ≤ v / 64 % 64 + 128 ∧ v / 64 % 64 + 128 ≤ 0xBF := by omega
    exact ⟨0xA0, 0xBF, by simp [hfirst], hsecond⟩
  · by_cases hsurrogate : v / 4096 = 0xD
    · have hsecond : 0x80 ≤ v / 64 % 64 + 128 ∧ v / 64 % 64 + 128 ≤ 0x9F := by omega
      exact ⟨0x80, 0x9F, by simp [hsurrogate], hsecond⟩
    · have hother : ¬v / 4096 + 224 = 0xE0 ∧ ¬v / 4096 + 224 = 0xED ∧ v / 4096 + 224 < 0xF0 := by
        omega
      have hbits : v / 4096 + 224 - 0xE0 = v / 4096 := by omega
      have hsecond : 0x80 ≤ v / 64 % 64 + 128 ∧ v / 64 % 64 + 128 ≤ 0xBF := by omega
      exact ⟨0x80, 0xBF, by simp only [hother, ↓reduceIte, hbits], hsecond⟩

/-- The first of four bytes; the last character bounds the second. -/
theorem lead_four (v : Nat) (hlow : 0xFFFF < v) (hhigh : v < 0x110000) :
    ∃ low high,
      lead (UInt8.ofNat (v / 262144 % 8 + 240)) = ([], inside (v / 262144) 2 low high) ∧
        low ≤ v / 4096 % 64 + 128 ∧ v / 4096 % 64 + 128 ≤ high := by
  have hbyte : (UInt8.ofNat (v / 262144 % 8 + 240)).toNat = v / 262144 + 240 := by
    rw [UInt8.toNat_ofNat']
    omega
  have hcases : v / 262144 = 0 ∨ (0 < v / 262144 ∧ v / 262144 < 4) ∨ v / 262144 = 4 := by omega
  rcases hcases with hfirst | hmiddle | hlast
  · have hsecond : 0x90 ≤ v / 4096 % 64 + 128 ∧ v / 4096 % 64 + 128 ≤ 0xBF := by omega
    exact ⟨0x90, 0xBF, by simp [lead, hfirst], hsecond⟩
  · have hrange : ¬v / 262144 + 240 < 0x80 ∧ ¬v / 262144 + 240 < 0xC2 ∧
        ¬v / 262144 + 240 < 0xE0 ∧ ¬v / 262144 + 240 = 0xE0 ∧ ¬v / 262144 + 240 = 0xED ∧
        ¬v / 262144 + 240 < 0xF0 ∧ ¬v / 262144 + 240 = 0xF0 ∧ v / 262144 + 240 < 0xF4 := by omega
    have hbits : v / 262144 + 240 - 0xF0 = v / 262144 := by omega
    have hsecond : 0x80 ≤ v / 4096 % 64 + 128 ∧ v / 4096 % 64 + 128 ≤ 0xBF := by omega
    exact ⟨0x80, 0xBF, by simp only [lead, hbyte, hrange, ↓reduceIte, hbits], hsecond⟩
  · have hsecond : 0x80 ≤ v / 4096 % 64 + 128 ∧ v / 4096 % 64 + 128 ≤ 0x8F := by omega
    exact ⟨0x80, 0x8F, by simp [lead, hlast], hsecond⟩

/-! ### Characters and texts -/

theorem toNat_valid (c : Char) : c.toNat < 0xD800 ∨ (0xDFFF < c.toNat ∧ c.toNat < 0x110000) :=
  c.valid

/-- Between characters, the bytes of a character give it, and lead back there. -/
theorem run_utf8EncodeChar (c : Char) (rest : List UInt8) :
    ready.run (String.utf8EncodeChar c ++ rest) = c :: ready.run rest := by
  have hvalid := toNat_valid c
  have hchar : Char.ofNat c.toNat = c := Char.ofNat_toNat c
  have hval : c.val.toNat = c.toNat := rfl
  rw [String.utf8EncodeChar]
  simp only [hval]
  split
  · rename_i hone
    rw [List.cons_append, run, step, lead_one _ hone, hchar]
    rfl
  split
  · rename_i hone htwo
    have hinside := run_inside 0 c.toNat 0x80 0xBF rest (by omega) (by omega)
    rw [hchar, continuation_one] at hinside
    rw [List.cons_append, run, step, lead_two _ (by omega) htwo]
    exact hinside
  split
  · rename_i hone htwo hthree
    obtain ⟨low, high, hlead, hlow, hhigh⟩ := lead_three c.toNat (by omega) hthree (by omega)
    have hinside := run_inside 1 c.toNat low high rest hlow hhigh
    rw [hchar, continuation_two] at hinside
    rw [List.cons_append, run, step, hlead]
    exact hinside
  · rename_i hone htwo hthree
    obtain ⟨low, high, hlead, hlow, hhigh⟩ := lead_four c.toNat (by omega) (by omega)
    have hinside := run_inside 2 c.toNat low high rest hlow hhigh
    rw [hchar, continuation_three] at hinside
    rw [List.cons_append, run, step, hlead]
    exact hinside

theorem run_flatMap_utf8EncodeChar (cs : List Char) :
    ready.run (cs.flatMap String.utf8EncodeChar) = cs := by
  induction cs with
  | nil => rfl
  | cons c cs ih => rw [List.flatMap_cons, run_utf8EncodeChar, ih]

end Utf8State

theorem ofUtf8Lossy_toUTF8 (s : String) : ofUtf8Lossy s.toUTF8 = s := by
  have hbytes : s.toUTF8.data.toList = s.toList.flatMap String.utf8EncodeChar := by
    rw [String.toUTF8_eq_toByteArray, ← String.utf8Encode_toList, List.utf8Encode,
      List.toList_data_toByteArray]
  rw [ofUtf8Lossy, hbytes, Utf8State.run_flatMap_utf8EncodeChar, String.ofList_toList]

end Fieldwise.Text
