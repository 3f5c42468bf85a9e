import Fieldwise.Json.Reader
import Fieldwise.Proofs.Numerals

/-!
# JSON strings and integers read back

Each reader is shown on what is written with any text behind it: a string ends at its own
quote, because every quote and backslash inside it is escaped, and an integer ends where the
text behind it does not go on with a number.
-/

namespace Fieldwise

namespace Json

/-! ### Strings -/

theorem hexDigit?_digitChar : ∀ d < 16, Number.hexDigit? (Nat.digitChar d) = some d := by decide

theorem readHex4_hex4 (n : Nat) (h : n < 65536) (rest : List Char) :
    readHex4 (hex4 n ++ rest) = some (n, rest) := by
  have hdigit : ∀ m, Number.hexDigit? (Nat.digitChar (m % 16)) = some (m % 16) := fun m =>
    hexDigit?_digitChar _ (Nat.mod_lt m (by decide))
  have hvalue : ((n / 4096 % 16 * 16 + n / 256 % 16) * 16 + n / 16 % 16) * 16 + n % 16 = n := by
    omega
  simp only [hex4, List.map_cons, List.map_nil, List.cons_append, List.nil_append, readHex4,
    hdigit, Option.bind_eq_bind, Option.bind_some, hvalue]

theorem readEscape_control (c : Char) (h : c.toNat < 0x20) (rest : List Char) :
    readEscape ('u' :: (hex4 c.toNat ++ rest)) = some (c, rest) := by
  have hhigh : ¬(0xD800 ≤ c.toNat ∧ c.toNat < 0xDC00) := by omega
  have hlow : ¬(0xDC00 ≤ c.toNat ∧ c.toNat < 0xE000) := by omega
  have hsmall : c.toNat < 65536 := by omega
  simp only [readEscape, readHex4_hex4 _ hsmall, Option.bind_eq_bind, Option.bind_some, hhigh,
    hlow, ↓reduceIte, Char.ofNat_toNat]

theorem readString_backslash (fuel : Nat) (c : Char) (cs rest : List Char)
    (h : readEscape cs = some (c, rest)) :
    readString (fuel + 1) ('\\' :: cs) = (readString fuel rest).map fun r => (c :: r.1, r.2) := by
  have hquote : ¬ '\\' = '"' := by decide
  simp only [readString, hquote, ↓reduceIte, h, Option.bind_eq_bind, Option.bind_some]
  cases readString fuel rest with
  | none => rfl
  | some r => rfl

/-- An escaped character is read as one character, whichever of its forms was written. -/
theorem readString_escape (fuel : Nat) (c : Char) (rest : List Char) :
    readString (fuel + 1) (escape c ++ rest) =
      (readString fuel rest).map fun r => (c :: r.1, r.2) := by
  by_cases hshort : c ∈ ['"', '\\', '\x08', '\x0C', '\n', '\r', '\t']
  · simp only [List.mem_cons, List.not_mem_nil, or_false] at hshort
    rcases hshort with rfl | rfl | rfl | rfl | rfl | rfl | rfl <;>
      exact readString_backslash fuel _ _ rest rfl
  simp only [List.mem_cons, List.not_mem_nil, or_false, not_or] at hshort
  by_cases hcontrol : c.toNat < 0x20
  · have hescape : escape c = '\\' :: 'u' :: hex4 c.toNat := by
      simp only [escape, hshort, hcontrol, ↓reduceIte]
    rw [hescape]
    exact readString_backslash fuel c _ rest (readEscape_control c hcontrol rest)
  · have hescape : escape c = [c] := by
      simp only [escape, hshort, hcontrol, ↓reduceIte]
    simp only [hescape, List.singleton_append, readString, hshort, hcontrol, ↓reduceIte,
      Option.bind_eq_bind]
    cases readString fuel rest with
    | none => rfl
    | some r => rfl

theorem readString_escaped (s : List Char) (fuel : Nat) (h : s.length ≤ fuel)
    (rest : List Char) :
    readString (fuel + 1) (s.flatMap escape ++ '"' :: rest) = some (s, rest) := by
  induction s generalizing fuel with
  | nil => rfl
  | cons c s ih =>
    cases fuel with
    | zero => exact absurd h (Nat.not_succ_le_zero _)
    | succ fuel =>
      have hs : s.length ≤ fuel := Nat.le_of_succ_le_succ h
      rw [List.flatMap_cons, List.append_assoc, readString_escape, ih fuel hs]
      rfl

theorem length_le_length_escaped (s : List Char) : s.length ≤ (s.flatMap escape).length := by
  induction s with
  | nil => exact Nat.le_refl 0
  | cons c s ih =>
    have hc : 0 < (escape c).length := by
      unfold escape
      split_ifs <;> exact Nat.succ_pos _
    rw [List.flatMap_cons, List.length_append, List.length_cons]
    omega

theorem quoted_append (s : String) (rest : List Char) :
    quoted s ++ rest = '"' :: (s.toList.flatMap escape ++ '"' :: rest) := by
  simp only [quoted, List.cons_append, List.append_assoc, List.nil_append]

theorem readString_quoted (s : String) (fuel : Nat) (h : (quoted s).length ≤ fuel)
    (rest : List Char) :
    readString fuel (s.toList.flatMap escape ++ '"' :: rest) = some (s.toList, rest) := by
  have hescaped := length_le_length_escaped s.toList
  cases fuel with
  | zero => exact absurd h (Nat.not_succ_le_zero _)
  | succ fuel =>
    simp only [quoted, List.length_cons, List.length_append, List.length_nil] at h
    exact readString_escaped s.toList fuel (by omega) rest

/-! ### Integers -/

/-- A text with which the number before it does not go on. -/
def EndsNumber (rest : List Char) : Prop :=
  ∀ c ∈ rest.head?, c.isDigit = false ∧ c ∉ ['.', 'e', 'E']

theorem endsNumber_nil : EndsNumber [] := fun _ h => nomatch h

theorem endsNumber_cons (c : Char) (rest : List Char)
    (h : c.isDigit = false ∧ c ∉ ['.', 'e', 'E']) : EndsNumber (c :: rest) := by
  intro d hd
  cases hd
  exact h

section

variable {rest : List Char} (hrest : EndsNumber rest)
include hrest

theorem EndsNumber.endsDigits : Number.EndsDigits rest := fun c hc => (hrest c hc).1

theorem readFraction_none : readFraction rest = some (none, rest) := by
  cases rest with
  | nil => rfl
  | cons c cs =>
    have hpoint : c ≠ '.' := by
      rintro rfl
      exact (hrest _ rfl).2 (by decide)
    unfold readFraction
    split
    · rename_i hcons
      exact absurd (List.cons.inj hcons).1 hpoint
    · rfl

theorem readExponent_none : readExponent rest = some (none, rest) := by
  cases rest with
  | nil => rfl
  | cons c cs =>
    have hmark : ¬(c = 'e' ∨ c = 'E') := by
      rintro (rfl | rfl) <;> exact (hrest _ rfl).2 (by decide)
    simp only [readExponent, hmark, ↓reduceIte]

/-- Digits after an optional minus sign are read as a whole, unless a zero stands before another
digit. -/
theorem readNumber_digits (negative : Bool) {digits : List Char} (hne : digits ≠ [])
    (hdigits : ∀ c ∈ digits, c.isDigit = true) :
    readNumber ((if negative then ['-'] else []) ++ (digits ++ rest)) =
      if Number.LeadingZero digits then none
      else (integerOf negative digits).map fun j => (j, rest) := by
  have htake := Number.takeWhile_digits hdigits hrest.endsDigits
  have hdrop := Number.dropWhile_digits hdigits hrest.endsDigits
  cases negative with
  | true =>
    simp only [↓reduceIte, List.singleton_append, readNumber, htake, hdrop, hne, false_or,
      readFraction_none hrest, readExponent_none hrest, Option.bind_eq_bind, Option.bind_some]
    rw [Option.map_eq_bind]
    rfl
  | false =>
    -- the sign is read by a match on the text, which this takes to its second case
    have hsign : ∀ tail, digits ++ rest ≠ '-' :: tail := by
      intro tail hcons
      obtain ⟨c, cs, rfl⟩ := List.exists_cons_of_ne_nil hne
      have hminus : c = '-' := (List.cons.inj hcons).1
      rw [hminus] at hdigits
      exact absurd (hdigits '-' (List.mem_cons_self ..)) (by decide)
    simp only [Bool.false_eq_true, ↓reduceIte, List.nil_append, readNumber, htake, hdrop, hne,
      false_or, readFraction_none hrest, readExponent_none hrest, Option.bind_eq_bind,
      Option.bind_some]
    rw [Option.map_eq_bind]
    rfl

theorem readNumber_integer (z : Int) :
    readNumber (Number.integer z ++ rest) =
      (integerOf (decide (z < 0)) (Number.natural z.natAbs)).map fun j => (j, rest) := by
  have hread := readNumber_digits hrest (decide (z < 0)) (Number.natural_ne_nil z.natAbs)
    (Number.isDigit_of_mem_natural z.natAbs)
  rw [if_neg (Number.not_leadingZero_natural z.natAbs)] at hread
  rw [← hread, Number.integer]
  by_cases hz : z < 0
  · simp only [hz, ↓reduceIte, decide_true, List.cons_append, List.nil_append]
  · simp only [hz, ↓reduceIte, decide_false, Bool.false_eq_true, List.nil_append]

end

theorem integerOf_int64 (n : Int64) :
    integerOf (decide (n.toInt < 0)) (Number.natural n.toInt.natAbs) = some (.int n) := by
  have hlow := Int64.le_toInt n
  have hhigh := Int64.toInt_lt n
  have hexact : ¬18446744073709551616 ≤ n.toInt.natAbs := by omega
  rcases Int.lt_or_le n.toInt 0 with hneg | hpos
  · have hsigned : ¬(n.toInt.natAbs = 0 ∨ 9223372036854775808 < n.toInt.natAbs) := by omega
    have hvalue : -(n.toInt.natAbs : Int) = n.toInt := by omega
    simp only [integerOf, Number.ofDigitChars_natural, hexact, hneg, decide_true, hsigned,
      hvalue, ↓reduceIte, Int64.ofInt_toInt]
  · have hnonneg : ¬n.toInt < 0 := by omega
    have hsmall : n.toInt.natAbs < 9223372036854775808 := by omega
    have hvalue : (n.toInt.natAbs : Int) = n.toInt := by omega
    simp only [integerOf, Number.ofDigitChars_natural, hexact, hnonneg, decide_false, hsmall,
      hvalue, Bool.false_eq_true, ↓reduceIte, Int64.ofInt_toInt]

theorem integerOf_uint64 (n : UInt64) (h : 9223372036854775808 ≤ n.toNat) :
    integerOf false (Number.natural n.toNat) = some (.uint n) := by
  have hexact : ¬18446744073709551616 ≤ n.toNat := Nat.not_le.mpr n.toNat_lt
  have hlarge : ¬n.toNat < 9223372036854775808 := Nat.not_lt.mpr h
  simp only [integerOf, Number.ofDigitChars_natural, hexact, hlarge, Bool.false_eq_true,
    ↓reduceIte, UInt64.ofNat_toNat]

end Json

end Fieldwise
