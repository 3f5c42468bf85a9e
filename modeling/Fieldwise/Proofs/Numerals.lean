import Fieldwise.Number.Integer
import Fieldwise.Proofs.Trimming
import Mathlib.Data.List.Induction

/-!
# Numbers written in decimal

The decimal form of a number has digits alone, after a sign where it is negative, so no blank
is trimmed off it, and every reader whose range holds the number reads it back. Digits without a
zero before another digit are the decimal form of what they stand for.
-/

namespace Fieldwise.Number

theorem isDigit_of_mem_natural (n : Nat) (c : Char) (h : c ∈ natural n) : c.isDigit = true :=
  Nat.isDigit_of_mem_toDigits (by decide) (by decide) h

theorem natural_ne_nil (n : Nat) : natural n ≠ [] := Nat.toDigits_ne_nil

theorem natural_eq_cons (n : Nat) :
    ∃ c cs, natural n = c :: cs ∧ c ≠ '-' ∧ c ≠ '+' := by
  cases hn : natural n with
  | nil => exact absurd hn (natural_ne_nil n)
  | cons c cs =>
    have hdigit := isDigit_of_mem_natural n c (hn ▸ List.mem_cons_self ..)
    refine ⟨c, cs, rfl, ?_, ?_⟩
    · rintro rfl
      exact absurd hdigit (by decide)
    · rintro rfl
      exact absurd hdigit (by decide)

/-- No zero stands before another digit. -/
theorem head?_natural_ne_zero (n : Nat) (h : 0 < n) : (natural n).head? ≠ some '0' := by
  induction n using Nat.strongRecOn with
  | ind n ih =>
    rcases Nat.lt_or_ge n 10 with hn | hn
    · have hdigit : ∀ m < 10, 0 < m → [Nat.digitChar m].head? ≠ some '0' := by decide
      rw [natural, Nat.toDigits_of_lt_base hn]
      exact hdigit n hn h
    · have hhead := ih (n / 10) (by omega) (by omega)
      obtain ⟨c, cs, heq, -⟩ := natural_eq_cons (n / 10)
      have hsplit : natural n = natural (n / 10) ++ [Nat.digitChar (n % 10)] :=
        Nat.toDigits_of_base_le (by decide) hn
      rw [hsplit, heq]
      rw [heq] at hhead
      exact hhead

theorem integer_ne_nil (z : Int) : integer z ≠ [] := by
  unfold integer
  split
  · exact List.cons_ne_nil _ _
  · exact natural_ne_nil _

theorem ofList_integer (z : Int) : String.ofList (integer z) = toString z := by
  cases z with
  | ofNat n => rfl
  | negSucc n =>
    have hsign : toString (Int.negSucc n) = "-" ++ String.ofList (natural (n + 1)) := rfl
    apply String.toList_inj.mp
    rw [hsign, String.toList_append, String.toList_ofList]
    simp [integer]

/-! ### Digits -/

theorem toNat_of_isDigit (c : Char) (h : c.isDigit = true) : 48 ≤ c.toNat ∧ c.toNat ≤ 57 := by
  simpa [Char.isDigit, UInt32.le_iff_toNat_le] using h

theorem digitChar_of_isDigit (c : Char) (h : c.isDigit = true) :
    Nat.digitChar (c.toNat - '0'.toNat) = c := by
  have hzero : '0'.toNat = 48 := rfl
  have hrange := toNat_of_isDigit c h
  have hdigit : c.toNat - '0'.toNat < 10 := by omega
  apply Char.toNat_inj.mp
  rw [Nat.toNat_digitChar_of_lt_ten hdigit]
  omega

theorem natural_append_digit (n d : Nat) (hn : 0 < n) (hd : d < 10) :
    natural (10 * n + d) = natural n ++ [Nat.digitChar d] := by
  have hsplit : natural (10 * n + d) =
      natural ((10 * n + d) / 10) ++ [Nat.digitChar ((10 * n + d) % 10)] :=
    Nat.toDigits_of_base_le (by decide) (by omega)
  have hquotient : (10 * n + d) / 10 = n := by omega
  have hrest : (10 * n + d) % 10 = d := by omega
  rw [hsplit, hquotient, hrest]

/-- A zero stands before another digit. -/
def LeadingZero (digits : List Char) : Prop := digits.head? = some '0' ∧ digits.length ≠ 1

instance (digits : List Char) : Decidable (LeadingZero digits) :=
  inferInstanceAs (Decidable (_ ∧ _))

theorem not_leadingZero_iff (digits : List Char) :
    ¬LeadingZero digits ↔ (digits.head? = some '0' → digits.length = 1) := not_and_not_right

theorem not_leadingZero_natural (n : Nat) : ¬LeadingZero (natural n) := by
  intro h
  rcases Nat.eq_zero_or_pos n with hn | hn
  · rw [hn] at h
    exact h.2 rfl
  · exact head?_natural_ne_zero n hn h.1

/-- Digits with no zero before another digit are the decimal form of their number. -/
theorem natural_ofDigitChars (cs : List Char) (hne : cs ≠ [])
    (hdigits : ∀ c ∈ cs, c.isDigit = true) (hzero : ¬LeadingZero cs) :
    natural (Nat.ofDigitChars 10 cs 0) = cs := by
  induction cs using List.reverseRecOn with
  | nil => exact absurd rfl hne
  | append_singleton cs c ih =>
    have hc : c.isDigit = true := hdigits c (List.mem_append_right _ (List.mem_singleton_self c))
    have hlast := digitChar_of_isDigit c hc
    have hdigit : c.toNat - '0'.toNat < 10 := by
      have hrange := toNat_of_isDigit c hc
      have hzero : '0'.toNat = 48 := rfl
      omega
    rw [Nat.ofDigitChars_append, Nat.ofDigitChars_cons, Nat.ofDigitChars_nil]
    by_cases hcs : cs = []
    · subst hcs
      rw [Nat.ofDigitChars_nil, Nat.mul_zero, Nat.zero_add, natural,
        Nat.toDigits_of_lt_base hdigit, hlast]
      rfl
    · have hhead : cs.head? ≠ some '0' := by
        intro hhead
        have hpos := List.length_pos_iff.mpr hcs
        refine hzero ⟨by rw [List.head?_append, hhead, Option.some_or], ?_⟩
        rw [List.length_append, List.length_singleton]
        omega
      have hupper : natural (Nat.ofDigitChars 10 cs 0) = cs :=
        ih hcs (fun d hd => hdigits d (List.mem_append_left _ hd)) fun h => hhead h.1
      -- The upper digits stand for no zero, since that is written with the digit zero.
      have hpos : 0 < Nat.ofDigitChars 10 cs 0 := by
        apply Nat.pos_of_ne_zero
        intro hvalue
        rw [hvalue] at hupper
        exact hhead (hupper ▸ rfl)
      rw [natural_append_digit _ _ hpos hdigit, hupper, hlast]

/-! ### Digits in front of a text -/

/-- A text with which the digits before it do not go on. -/
def EndsDigits (rest : List Char) : Prop := ∀ c ∈ rest.head?, c.isDigit = false

theorem endsDigits_nil : EndsDigits [] := fun _ h => nomatch h

theorem endsDigits_cons (c : Char) (rest : List Char) (h : c.isDigit = false) :
    EndsDigits (c :: rest) := by
  intro d hd
  cases hd
  exact h

theorem endsDigits_dropWhile (cs : List Char) : EndsDigits (cs.dropWhile Char.isDigit) := by
  intro c hc
  have hhead := List.head?_dropWhile_not Char.isDigit cs
  rw [Option.mem_def.mp hc] at hhead
  exact hhead

section

variable {digits rest : List Char} (hdigits : ∀ c ∈ digits, c.isDigit = true)
  (hrest : EndsDigits rest)
include hdigits hrest

theorem takeWhile_digits : (digits ++ rest).takeWhile Char.isDigit = digits := by
  rw [List.takeWhile_append_of_pos hdigits]
  cases rest with
  | nil => rw [List.takeWhile_nil, List.append_nil]
  | cons c cs => rw [List.takeWhile_cons_of_neg (by simp [hrest c rfl]), List.append_nil]

theorem dropWhile_digits : (digits ++ rest).dropWhile Char.isDigit = rest := by
  rw [List.dropWhile_append_of_pos hdigits]
  cases rest with
  | nil => rfl
  | cons c cs => exact List.dropWhile_cons_of_neg (by simp [hrest c rfl])

end

/-! ### Blanks -/

theorem isBlank_of_isDigit (c : Char) (h : c.isDigit = true) : Text.isBlank c = false := by
  have hrange := toNat_of_isDigit c h
  simp only [Text.isBlank]
  grind

theorem isBlank_of_mem_integer (z : Int) (c : Char) (h : c ∈ integer z) :
    Text.isBlank c = false := by
  unfold integer at h
  split at h
  · rcases List.mem_cons.mp h with rfl | h
    · decide
    · exact isBlank_of_isDigit c (isDigit_of_mem_natural _ c h)
  · exact isBlank_of_isDigit c (isDigit_of_mem_natural _ c h)

theorem trim_integer (z : Int) : Text.trim (integer z) = integer z :=
  Text.trim_eq_self _ (isBlank_of_mem_integer z)

theorem trim_natural (n : Nat) : Text.trim (natural n) = natural n := trim_integer n

/-! ### Reading back -/

theorem ofDigitChars_natural (n : Nat) : Nat.ofDigitChars 10 (natural n) 0 = n :=
  Nat.ofDigitChars_toDigits (by decide) (by decide)

theorem readInteger_natural (n : Nat) : readInteger (natural n) = some (n : Int) := by
  obtain ⟨c, cs, heq, hminus, hplus⟩ := natural_eq_cons n
  have hread : (readNatural (natural n)).map (fun n => (n : Int)) = some (n : Int) := by
    rw [readNatural_natural]
    rfl
  rw [heq] at hread ⊢
  unfold readInteger
  split
  · rename_i hcons
    exact absurd (List.cons.inj hcons).1 hminus
  · rename_i hcons
    exact absurd (List.cons.inj hcons).1 hplus
  · exact hread

theorem readInteger_integer (z : Int) : readInteger (integer z) = some z := by
  unfold integer
  split
  · have hneg : -((z.natAbs : Nat) : Int) = z := by omega
    simp only [readInteger, readNatural_natural]
    exact congrArg some hneg
  · have hnonneg : ((z.natAbs : Nat) : Int) = z := by omega
    rw [readInteger_natural, hnonneg]

theorem readUnsigned_natural (bits n : Nat) (h : n < twoPow bits) :
    readUnsigned bits (natural n) = some n := by
  obtain ⟨c, cs, heq, _, hplus⟩ := natural_eq_cons n
  have hread := readNatural_natural n
  rw [heq] at hread ⊢
  unfold readUnsigned
  split
  · rename_i hcons
    exact absurd (List.cons.inj hcons).1 hplus
  · simp only [hread, Option.filter, h, decide_true, ↓reduceIte]

theorem readSigned_integer (bits : Nat) (z : Int)
    (h : -(twoPow (bits - 1) : Int) ≤ z ∧ z < twoPow (bits - 1)) :
    readSigned bits (integer z) = some z := by
  simp only [readSigned, readInteger_integer, Option.filter, h, and_self, decide_true, ↓reduceIte]

/-! ### Numbers of 64 bits -/

theorem readInt64_integer (n : Int64) : readInt64 (integer n.toInt) = some n := by
  have hpow : (twoPow (64 - 1) : Int) = 2 ^ 63 := rfl
  have hrange : -(twoPow (64 - 1) : Int) ≤ n.toInt ∧ n.toInt < twoPow (64 - 1) := by
    rw [hpow]
    exact ⟨Int64.le_toInt n, Int64.toInt_lt n⟩
  rw [readInt64, readSigned_integer 64 n.toInt hrange, Option.map_some, Int64.ofInt_toInt]

theorem readUInt64_natural (n : UInt64) : readUInt64 (natural n.toNat) = some n := by
  rw [readUInt64, readUnsigned_natural 64 n.toNat (UInt64.toNat_lt n), Option.map_some,
    UInt64.ofNat_toNat]

end Fieldwise.Number
