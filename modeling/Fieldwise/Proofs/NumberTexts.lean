import Fieldwise.Proofs.Due
import Fieldwise.Proofs.Number.Written

/-!
# The texts of numbers

An integer is shown as digits after a sign where it is negative, and a finite double as digits
laid out around a point that has digits on both sides, however many zeros that takes. So the text
of a number passes as a number, and that of a double which is not finite does not.
-/

namespace Fieldwise

namespace Number

/-! ### Numbers without a sign -/

/-- A text that writes a number without a sign. -/
def Unsigned (cs : List Char) : Prop := ∃ n : WrittenNumber, n.sign = .none ∧ n.chars = cs

theorem unsigned_digits (cs : List Char) (hne : cs ≠ []) (h : ∀ c ∈ cs, c.isDigit = true) :
    Unsigned cs := by
  refine ⟨⟨.none, ⟨cs, hne, List.all_eq_true.mpr h⟩, none⟩, rfl, ?_⟩
  exact List.append_nil cs

theorem unsigned_point (whole fraction : List Char) (hwhole : whole ≠ [])
    (hfraction : fraction ≠ []) (h : ∀ c ∈ whole ++ fraction, c.isDigit = true) :
    Unsigned (whole ++ '.' :: fraction) := by
  have hleft : ∀ c ∈ whole, c.isDigit = true := fun c hc => h c (List.mem_append_left _ hc)
  have hright : ∀ c ∈ fraction, c.isDigit = true := fun c hc => h c (List.mem_append_right _ hc)
  exact ⟨⟨.none, ⟨whole, hwhole, List.all_eq_true.mpr hleft⟩,
    some ⟨fraction, hfraction, List.all_eq_true.mpr hright⟩⟩, rfl, rfl⟩

theorem unsigned_natural (n : Nat) : Unsigned (natural n) :=
  unsigned_digits _ (natural_ne_nil n) (isDigit_of_mem_natural n)

theorem Unsigned.isNumeric {cs : List Char} (h : Unsigned cs) : Format.isNumeric cs = true := by
  obtain ⟨n, -, hn⟩ := h
  exact (WrittenNumber.isNumeric_iff cs).mpr ⟨n, hn⟩

theorem Unsigned.isNumeric_minus {cs : List Char} (h : Unsigned cs) :
    Format.isNumeric ('-' :: cs) = true := by
  obtain ⟨n, hsign, rfl⟩ := h
  refine (WrittenNumber.isNumeric_iff _).mpr ⟨{ n with sign := .minus }, ?_⟩
  have htail : WrittenNumber.tail { n with sign := .minus } = n.tail := rfl
  simp only [WrittenNumber.chars, hsign, htail, Sign.chars, List.singleton_append,
    List.nil_append]

/-! ### Integers and doubles -/

theorem isNumeric_integer (z : Int) : Format.isNumeric (integer z) = true := by
  unfold integer
  split
  · exact (unsigned_natural _).isNumeric_minus
  · exact (unsigned_natural _).isNumeric

theorem isDigit_of_mem_zeros (n : Nat) (c : Char) (h : c ∈ List.replicate n '0') :
    c.isDigit = true := by
  rw [List.eq_of_mem_replicate h]
  rfl

/-- Wherever the point falls, there are digits on both sides of it. -/
theorem unsigned_positional (digits : Nat) (exponent : Int) :
    Unsigned (positional digits exponent) := by
  have hne := natural_ne_nil digits
  have hdigits := isDigit_of_mem_natural digits
  cases exponent with
  | ofNat zeros =>
    apply unsigned_digits
    · exact List.append_ne_nil_of_left_ne_nil hne _
    · intro c hc
      exact (List.mem_append.mp hc).elim (hdigits c) (isDigit_of_mem_zeros zeros c)
  | negSucc n =>
    simp only [positional]
    split
    · apply unsigned_point
      · rw [ne_eq, ← List.length_eq_zero_iff, List.length_take]
        omega
      · rw [ne_eq, ← List.length_eq_zero_iff, List.length_drop]
        omega
      · rw [List.take_append_drop]
        exact hdigits
    · apply unsigned_point ['0']
      · exact List.cons_ne_nil _ _
      · exact List.append_ne_nil_of_right_ne_nil _ hne
      · intro c hc
        rcases List.mem_append.mp hc with hzero | hc
        · exact isDigit_of_mem_zeros 1 c hzero
        · exact (List.mem_append.mp hc).elim (isDigit_of_mem_zeros _ c) (hdigits c)

theorem Finite.unsigned_magnitude (x : Finite) : Unsigned x.magnitude := by
  unfold magnitude
  split
  · exact unsigned_natural 0
  · exact unsigned_positional _ _

theorem Finite.isNumeric_chars (x : Finite) :
    Format.isNumeric (Binary64.chars (.finite x)) = true := by
  simp only [Binary64.chars]
  split
  · exact x.unsigned_magnitude.isNumeric_minus
  · exact x.unsigned_magnitude.isNumeric

end Number

/-! ### Values -/

namespace Value

/-- The values that are numbers. -/
inductive IsNumber : Value → Prop
  | int (n : Int64) : IsNumber (.int n)
  | uint (n : UInt64) : IsNumber (.uint n)
  | float (x : Number.Binary64) : IsNumber (.float x)

/-- Not a number, or an infinity of either sign. -/
inductive IsNonFinite : Value → Prop
  | nan : IsNonFinite (.float .nan)
  | infinity (negative : Bool) : IsNonFinite (.float (.infinity negative))

theorem isNumeric_chars_iff (v : Value) (hv : v.IsNumber) :
    Format.isNumeric v.chars = true ↔ ¬v.IsNonFinite := by
  cases hv with
  | int n =>
    have htext : Format.isNumeric (Value.int n).chars = true := Number.isNumeric_integer _
    exact iff_of_true htext nofun
  | uint n =>
    have htext : Format.isNumeric (Value.uint n).chars = true :=
      (Number.unsigned_natural _).isNumeric
    exact iff_of_true htext nofun
  | float x =>
    cases x with
    | finite x => exact iff_of_true x.isNumeric_chars nofun
    | nan => exact iff_of_false (by decide) (not_not.mpr .nan)
    | infinity negative =>
      have htext : ∀ negative, Format.isNumeric (Value.float (.infinity negative)).chars ≠ true := by
        decide
      exact iff_of_false (htext negative) (not_not.mpr (.infinity negative))

end Value

/-- The text of every number is a number in writing, except that of a double which is not finite.
So the numeric constraint finds nothing wrong with a number but NaN and the infinities. -/
theorem numeric_rule_refuses_non_finite (v : Value) (hv : v.IsNumber) :
    (Format.isNumeric v.chars = true ↔ ¬v.IsNonFinite) ∧
    (v.isEmpty = false → ∀ (options : Options) (field : String) (override : Option String),
      let found := (Constraints.check options field [⟨.numeric, override⟩] (some v)).value
      (¬v.IsNonFinite → found = []) ∧
      (v.IsNonFinite →
        found = [⟨field, override.getD "Must be a valid number", "numeric"⟩])) := by
  have htext := v.isNumeric_chars_iff hv
  refine ⟨htext, ?_⟩
  intro hfilled options field override found
  have hfound : found = if Format.isNumeric v.chars = true then [] else
      [⟨field, override.getD "Must be a valid number", "numeric"⟩] :=
    Constraints.value_check_alone options field .numeric override v hfilled not_false
  constructor
  · intro hfinite
    rw [hfound, if_pos (htext.mpr hfinite)]
  · intro hnonfinite
    rw [hfound, if_neg fun htrue => htext.mp htrue hnonfinite]

/-- The greatest double has 309 digits. -/
theorem greatest_double_is_numeric :
    let v : Value := .float (.finite ⟨false, 9007199254740991, 2045, by decide, by decide,
      .inr (by decide)⟩)
    v.IsNumber ∧ v.isEmpty = false ∧ Format.isNumeric v.chars = true ∧
      (Constraints.check {} "n" [⟨.numeric, none⟩] (some v)).value = [] := by
  intro v
  have hnumber : v.IsNumber := .float _
  have hfinite : ∀ x : Number.Finite, ¬(Value.float (.finite x)).IsNonFinite := fun _ => nofun
  have hrule := numeric_rule_refuses_non_finite v hnumber
  exact ⟨hnumber, rfl, hrule.1.mpr (hfinite _), (hrule.2 rfl {} "n" none).1 (hfinite _)⟩

end Fieldwise
