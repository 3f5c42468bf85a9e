import Fieldwise.Proofs.Due
import Fieldwise.Proofs.Number.Rounding

/-!
# Equality of texts and numbers

Two texts are equal if they are the same, or if both write numbers that have the same nearest
double. So a number is equal to itself however it is written, and doubles, the integers of 53
bits among them, are told apart exactly; numbers that round to one double are not.
-/

namespace Fieldwise

namespace Number

/-- Both texts write a number, and the numbers stand in the relation. -/
def Written (relation : ℚ → ℚ → Prop) (cs ds : List Char) : Prop :=
  ∃ n m : WrittenNumber, n.chars = cs ∧ m.chars = ds ∧ relation n.value m.value

/-- One double is nearest to both numbers. -/
def SameNearest (p q : ℚ) : Prop := ∃ x, Nearest p x ∧ Nearest q x

def IsDouble (q : ℚ) : Prop := ∃ x : Finite, x.value = q

theorem WrittenNumber.nearest_chars (n : WrittenNumber) :
    ∃ x, Format.nearest n.chars = some x ∧ Nearest n.value x := by
  refine ⟨n.decimal.toBinary64, ?_, ?_⟩
  · rw [Format.nearest, n.read_chars, Option.map_some]
  · rw [← n.value_decimal]
    exact nearest_toBinary64 n.decimal

theorem sameNearest_self (n : WrittenNumber) : SameNearest n.value n.value := by
  obtain ⟨x, _, hx⟩ := n.nearest_chars
  exact ⟨x, hx, hx⟩

theorem SameNearest.symm {p q : ℚ} (h : SameNearest p q) : SameNearest q p := by
  obtain ⟨x, hp, hq⟩ := h
  exact ⟨x, hq, hp⟩

/-- A number has one nearest double, so both pairs share theirs. -/
theorem SameNearest.trans {p q r : ℚ} (hpq : SameNearest p q) (hqr : SameNearest q r) :
    SameNearest p r := by
  obtain ⟨x, hp, hq⟩ := hpq
  obtain ⟨y, hq', hr⟩ := hqr
  have hsame : x.equals y = true := equals_of_nearest q x y hq hq'
  exact ⟨x, hp, nearest_of_equals r x y hsame hr⟩

/-- Doubles with the same nearest double are the same number. -/
theorem SameNearest.eq_of_isDouble {p q : ℚ} (h : SameNearest p q) (hp : IsDouble p)
    (hq : IsDouble q) : p = q := by
  obtain ⟨z, hpz, hqz⟩ := h
  obtain ⟨x, rfl⟩ := hp
  obtain ⟨y, rfl⟩ := hq
  have hx : z.equals (.finite x) = true := equals_of_nearest _ _ _ hpz (nearest_value x)
  have hy : z.equals (.finite y) = true := equals_of_nearest _ _ _ hqz (nearest_value y)
  cases z with
  | finite z =>
    have hzx := (Binary64.equals_finite_iff z x).mp hx
    have hzy := (Binary64.equals_finite_iff z y).mp hy
    exact hzx.symm.trans hzy
  | nan => cases hx
  | infinity negative => cases hx

theorem isDouble_integer (z : Int) (h : z.natAbs ≤ 9007199254740992) : IsDouble z :=
  Finite.exists_integer z h

/-! ### The test of equality -/

theorem equals_nearest_iff (p q : ℚ) (x y : Binary64) (hx : Nearest p x) (hy : Nearest q y) :
    x.equals y = true ↔ SameNearest p q := by
  constructor
  · intro hequal
    exact ⟨x, hx, nearest_of_equals q x y hequal hy⟩
  · rintro ⟨z, hpz, hqz⟩
    have hxz : x.equals z = true := equals_of_nearest p x z hx hpz
    have hqx : Nearest q x := nearest_of_equals q x z hxz hqz
    exact equals_of_nearest q x y hqx hy

theorem isEqual_iff (cs expected : List Char) :
    Format.isEqual cs expected = true ↔ cs = expected ∨ Written SameNearest cs expected := by
  simp only [Format.isEqual, Bool.or_eq_true, Bool.and_eq_true, beq_iff_eq]
  apply or_congr_right
  constructor
  · rintro ⟨⟨hcs, hexpected⟩, hequal⟩
    obtain ⟨n, rfl⟩ := (WrittenNumber.isNumeric_iff cs).mp hcs
    obtain ⟨m, rfl⟩ := (WrittenNumber.isNumeric_iff expected).mp hexpected
    obtain ⟨x, hn, hx⟩ := n.nearest_chars
    obtain ⟨y, hm, hy⟩ := m.nearest_chars
    simp only [hn, hm] at hequal
    exact ⟨n, m, rfl, rfl, (equals_nearest_iff _ _ x y hx hy).mp hequal⟩
  · rintro ⟨n, m, rfl, rfl, hsame⟩
    obtain ⟨x, hn, hx⟩ := n.nearest_chars
    obtain ⟨y, hm, hy⟩ := m.nearest_chars
    simp only [hn, hm]
    exact ⟨⟨(WrittenNumber.isNumeric_iff _).mpr ⟨n, rfl⟩,
      (WrittenNumber.isNumeric_iff _).mpr ⟨m, rfl⟩⟩, (equals_nearest_iff _ _ x y hx hy).mpr hsame⟩

/-- A text writes no more than one number. -/
theorem WrittenNumber.value_eq_of_chars (n m : WrittenNumber) (h : n.chars = m.chars) :
    n.value = m.value := by
  have hread := n.read_chars
  rw [h, m.read_chars] at hread
  rw [← n.value_decimal, ← m.value_decimal, Option.some.inj hread]

theorem written_iff (relation : ℚ → ℚ → Prop) (n m : WrittenNumber) :
    Written relation n.chars m.chars ↔ relation n.value m.value := by
  constructor
  · rintro ⟨a, b, ha, hb, h⟩
    rw [← a.value_eq_of_chars n ha, ← b.value_eq_of_chars m hb]
    exact h
  · intro h
    exact ⟨n, m, rfl, rfl, h⟩

theorem isEqual_refl (cs : List Char) : Format.isEqual cs cs = true :=
  (isEqual_iff cs cs).mpr (.inl rfl)

theorem isEqual_symm {cs ds : List Char} (h : Format.isEqual cs ds = true) :
    Format.isEqual ds cs = true := by
  rcases (isEqual_iff cs ds).mp h with hsame | hwritten
  · rw [hsame]
    exact isEqual_refl ds
  · obtain ⟨n, m, hn, hm, hnearest⟩ := hwritten
    exact (isEqual_iff ds cs).mpr (.inr ⟨m, n, hm, hn, hnearest.symm⟩)

/-- Where both steps compare numbers, the text between them writes one number, and its nearest
double is that of the others. -/
theorem isEqual_trans {cs ds es : List Char} (h : Format.isEqual cs ds = true)
    (h' : Format.isEqual ds es = true) : Format.isEqual cs es = true := by
  rcases (isEqual_iff cs ds).mp h with hsame | hwritten
  · rw [hsame]
    exact h'
  rcases (isEqual_iff ds es).mp h' with hsame | hwritten'
  · rw [← hsame]
    exact h
  obtain ⟨n, m, hn, hm, hnm⟩ := hwritten
  obtain ⟨m', k, hm', hk, hmk⟩ := hwritten'
  rw [← m.value_eq_of_chars m' (hm.trans hm'.symm)] at hmk
  exact (isEqual_iff cs es).mpr (.inr ⟨n, k, hn, hk, hnm.trans hmk⟩)

/-- A text that writes no number is equal to no other text. -/
theorem isEqual_iff_of_not_isNumeric (cs ds : List Char) (h : Format.isNumeric cs = false) :
    Format.isEqual cs ds = true ↔ cs = ds := by
  rw [isEqual_iff]
  apply or_iff_left
  intro hwritten
  obtain ⟨n, _, hn, _, _⟩ := hwritten
  have hnumeric := (WrittenNumber.isNumeric_iff cs).mpr ⟨n, hn⟩
  rw [h] at hnumeric
  cases hnumeric

/-- The test finds the same text or the same number, unless two numbers round to one double. -/
theorem isEqual_exact_iff (cs expected : List Char) :
    (Format.isEqual cs expected = true ↔ cs = expected ∨ Written (· = ·) cs expected) ↔
      ¬Written (fun p q => p ≠ q ∧ SameNearest p q) cs expected := by
  rw [isEqual_iff]
  constructor
  · rintro hexact ⟨n, m, rfl, rfl, hdiffer, hsame⟩
    rcases hexact.mp (.inr ⟨n, m, rfl, rfl, hsame⟩) with hchars | hequal
    · exact hdiffer (n.value_eq_of_chars m hchars)
    · exact hdiffer ((written_iff _ n m).mp hequal)
  · intro hnone
    apply or_congr_right
    constructor
    · rintro ⟨n, m, rfl, rfl, hsame⟩
      by_cases hequal : n.value = m.value
      · exact ⟨n, m, rfl, rfl, hequal⟩
      · exact absurd ⟨n, m, rfl, rfl, hequal, hsame⟩ hnone
    · rintro ⟨n, m, rfl, rfl, hequal⟩
      refine ⟨n, m, rfl, rfl, ?_⟩
      rw [← hequal]
      exact sameNearest_self n

/-- Integers of 53 bits are told apart exactly. -/
theorem isEqual_integers_iff (n m : WrittenNumber) (a b : Int) (hn : n.value = a)
    (hm : m.value = b) (ha : a.natAbs ≤ 9007199254740992) (hb : b.natAbs ≤ 9007199254740992) :
    Format.isEqual n.chars m.chars = true ↔ a = b := by
  rw [isEqual_iff, written_iff, hn, hm]
  constructor
  · rintro (hchars | hsame)
    · have hvalue := n.value_eq_of_chars m hchars
      rw [hn, hm] at hvalue
      exact Int.cast_inj.mp hvalue
    · exact Int.cast_inj.mp
        (hsame.eq_of_isDouble (isDouble_integer a ha) (isDouble_integer b hb))
  · rintro rfl
    right
    rw [← hn]
    exact sameNearest_self n

end Number

/-! ### The constraints of equality -/

open Number (IsDouble SameNearest Written WrittenNumber)

section

variable {v : Value} (hfilled : v.isEmpty = false) (expected : String) (options : Options)
  (field : String) (override : Option String)
include hfilled

theorem value_check_equal :
    (Constraints.check options field [⟨.equal expected, override⟩] (some v)).value =
      if Format.isEqual v.chars expected.toList = true then [] else
        [⟨field, override.getD ("Must be equal to " ++ expected), "equal"⟩] :=
  Constraints.value_check_alone options field (.equal expected) override v hfilled not_false

theorem value_check_notEqual :
    (Constraints.check options field [⟨.notEqual expected, override⟩] (some v)).value =
      if ¬Format.isEqual v.chars expected.toList = true then [] else
        [⟨field, override.getD ("Must not be equal to " ++ expected), "not_equal"⟩] :=
  Constraints.value_check_alone options field (.notEqual expected) override v hfilled not_false

end

/-- Texts are equal that are the same or write numbers with one nearest double, and the
constraints of equality report accordingly. So the same number is equal in every writing, and
another number only if both round to one double, which doubles themselves never do. -/
theorem equality_up_to_rounding (cs : List Char) (expected : String) :
    (Format.isEqual cs expected.toList = true ↔
      cs = expected.toList ∨ Written SameNearest cs expected.toList) ∧
    ((Format.isEqual cs expected.toList = true ↔
        cs = expected.toList ∨ Written (· = ·) cs expected.toList) ↔
      ¬Written (fun p q => p ≠ q ∧ SameNearest p q) cs expected.toList) ∧
    (Written (fun p q => IsDouble p ∧ IsDouble q) cs expected.toList →
      ¬Written (fun p q => p ≠ q ∧ SameNearest p q) cs expected.toList) ∧
    ∀ (v : Value) (options : Options) (field : String) (override : Option String),
      v.chars = cs → v.isEmpty = false →
      let same := cs = expected.toList ∨ Written SameNearest cs expected.toList
      let asked := (Constraints.check options field [⟨.equal expected, override⟩] (some v)).value
      let refused :=
        (Constraints.check options field [⟨.notEqual expected, override⟩] (some v)).value
      (same → asked = [] ∧
        refused = [⟨field, override.getD ("Must not be equal to " ++ expected), "not_equal"⟩]) ∧
      (¬same → refused = [] ∧
        asked = [⟨field, override.getD ("Must be equal to " ++ expected), "equal"⟩]) := by
  refine ⟨Number.isEqual_iff _ _, Number.isEqual_exact_iff _ _, ?_, ?_⟩
  · rintro ⟨n, m, rfl, hm, hn', hm'⟩ hrounded
    rw [← hm] at hrounded
    obtain ⟨hdiffer, hsame⟩ := (Number.written_iff _ n m).mp hrounded
    exact hdiffer (hsame.eq_of_isDouble hn' hm')
  · rintro v options field override rfl hv same asked refused
    have hsame : Format.isEqual v.chars expected.toList = true ↔ same := Number.isEqual_iff _ _
    have hasked := value_check_equal hv expected options field override
    have hrefused := value_check_notEqual hv expected options field override
    constructor
    · intro h
      rw [if_pos (hsame.mpr h)] at hasked
      rw [if_neg (not_not.mpr (hsame.mpr h))] at hrefused
      exact ⟨hasked, hrefused⟩
    · intro h
      have hdiffer : ¬Format.isEqual v.chars expected.toList = true := fun heq => h (hsame.mp heq)
      rw [if_neg hdiffer] at hasked
      rw [if_pos hdiffer] at hrefused
      exact ⟨hrefused, hasked⟩

/-- A price in two writings. -/
theorem price_equal_with_zeros :
    let price : Value := .text "007.50"
    (Constraints.check {} "price" [⟨.equal "+7.5", none⟩] (some price)).value = [] ∧
      (Constraints.check {} "price" [⟨.notEqual "+7.5", none⟩] (some price)).value =
        [⟨"price", "Must not be equal to +7.5", "not_equal"⟩] := by
  intro price
  let long : WrittenNumber :=
    ⟨.none, ⟨['0', '0', '7'], by decide, by decide⟩, some ⟨['5', '0'], by decide, by decide⟩⟩
  let short : WrittenNumber :=
    ⟨.plus, ⟨['7'], by decide, by decide⟩, some ⟨['5'], by decide, by decide⟩⟩
  have hvalue : long.value = short.value := by
    have hlong : long.value = 7 + 50 / 10 ^ 2 := rfl
    have hshort : short.value = 7 + 5 / 10 ^ 1 := rfl
    rw [hlong, hshort]
    norm_num
  have hsame : SameNearest long.value short.value := by
    rw [← hvalue]
    exact Number.sameNearest_self long
  exact ((equality_up_to_rounding price.chars "+7.5").2.2.2 price {} "price" none rfl rfl).1
    (.inr ⟨long, short, rfl, rfl, hsame⟩)

/-- Integers of 54 bits may have one nearest double: these are equal, and denote two numbers. -/
theorem neighbouring_integers_equal :
    ¬∀ cs expected, Format.isEqual cs expected = true ↔
      cs = expected ∨ Written (· = ·) cs expected := by
  intro hexact
  have hequal : Format.isEqual "9007199254740993".toList "9007199254740992".toList = true := by
    decide +kernel
  have hvalue : ∀ (n : WrittenNumber) (text : String) (digits : Nat), n.chars = text.toList →
      Number.Decimal.read text.toList = some ⟨false, digits, 0⟩ → n.value = digits := by
    intro n text digits hchars hread
    rw [← hchars, n.read_chars] at hread
    rw [← n.value_decimal, Option.some.inj hread]
    simp [Number.Decimal.value, Number.signed]
  rcases (hexact _ _).mp hequal with hsame | ⟨n, m, hn, hm, hnumbers⟩
  · exact absurd hsame (by decide)
  · rw [hvalue n _ 9007199254740993 hn rfl, hvalue m _ 9007199254740992 hm rfl] at hnumbers
    norm_num at hnumbers

/-- Equality is an equivalence of texts, and the class of a text that writes no number is that
text alone. A value that is filled in keeps one of the constraints that it is equal to a text and
that it is not, and breaks the other; a field with both has this one violation. -/
theorem equality_is_equivalence :
    (Equivalence fun cs ds : List Char => Format.isEqual cs ds = true) ∧
    (∀ cs ds, Format.isEqual cs ds = Format.isEqual ds cs) ∧
    (∀ cs, Format.isNumeric cs = false → ∀ ds, Format.isEqual cs ds = true ↔ cs = ds) ∧
    ∀ (v : Value) (expected : String) (options : Options) (field : String)
      (first second : Option String), v.isEmpty = false →
      let equal : Constraint := ⟨.equal expected, first⟩
      let notEqual : Constraint := ⟨.notEqual expected, second⟩
      let found := fun cs : Constraints => (cs.check options field (some v)).value
      found [equal, notEqual] = found [equal] ++ found [notEqual] ∧
      (found [equal] = [] ∧ found [notEqual] = [notEqual.violation field notEqual.message] ∨
        found [equal] = [equal.violation field equal.message] ∧ found [notEqual] = []) := by
  refine ⟨⟨Number.isEqual_refl, Number.isEqual_symm, Number.isEqual_trans⟩, ?_,
    fun cs h ds => Number.isEqual_iff_of_not_isNumeric cs ds h, ?_⟩
  · intro cs ds
    rw [Bool.eq_iff_iff]
    exact ⟨Number.isEqual_symm, Number.isEqual_symm⟩
  · intro v expected options field first second hv equal notEqual found
    have hequal := value_check_equal hv expected options field first
    have hnotEqual := value_check_notEqual hv expected options field second
    constructor
    · simp only [found, Constraints.value_check_filled options field [equal, notEqual] hv,
        List.flatMap_cons, List.flatMap_nil, List.append_nil]
    · by_cases hsame : Format.isEqual v.chars expected.toList = true
      · rw [if_pos hsame] at hequal
        rw [if_neg (not_not.mpr hsame)] at hnotEqual
        exact .inl ⟨hequal, hnotEqual⟩
      · rw [if_neg hsame] at hequal
        rw [if_pos hsame] at hnotEqual
        exact .inr ⟨hequal, hnotEqual⟩

end Fieldwise
