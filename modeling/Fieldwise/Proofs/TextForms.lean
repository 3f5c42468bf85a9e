import Fieldwise.Proofs.Due
import Fieldwise.Proofs.Numerals
import Fieldwise.Proofs.Utf8

/-!
# Values that show the same text

Apart from a custom rule, a rule reads little of a value: formats, lengths, options and
layouts its text form, numeric bounds its integer form, and bounds in time whether it is a
timestamp. So values that agree in what is read are checked alike, with the same violations
and the same events. An integer may be held as a signed or an unsigned number or as decimal
text, and a text as its bytes in UTF-8.
-/

namespace Fieldwise

/-! ### What rules read -/

namespace Rule

def isBound : Rule → Bool
  | .min _ | .max _ => true
  | _ => false

/-- A rule that reads the value as it pleases. -/
def isCustom : Rule → Bool
  | .custom _ => true
  | _ => false

/-- The rule asks of two values only what they agree in: a bound finds the same number in
both. -/
def ReadsAlike (v w : Value) (rule : Rule) : Prop :=
  rule.isCustom = false ∧
    (rule.isBound = true → ∃ n, v.toInteger = some n ∧ w.toInteger = some n)

end Rule

/-- Two values that show the same text, both filled in or both empty, neither of them a
timestamp. -/
structure Value.SameText (v w : Value) : Prop where
  chars : v.chars = w.chars
  isEmpty : v.isEmpty = w.isEmpty
  timeless_left : v.asTimestamp = none
  timeless_right : w.asTimestamp = none

theorem Value.toTimestamp_of_timeless (v : Value) (layout : Calendar.Layout)
    (h : v.asTimestamp = none) :
    v.toTimestamp layout =
      match layout.read (Text.trim v.chars) with
      | .ok t => .ok t
      | .error reason => .error ⟨String.ofList (Text.trim v.chars), layout, reason⟩ := by
  cases v with
  | timestamp t => cases h
  | _ => rfl

/-- A text is filled in if a part of it is. -/
theorem Value.isEmpty_text_append (before after : List Char) {cs : List Char} (h : cs ≠ []) :
    (Value.text (String.ofList (before ++ cs ++ after))).isEmpty = false := by
  have hfilled : before ++ cs ++ after ≠ [] := by simp [h]
  simpa [Value.isEmpty] using hfilled

/-! ### Checks of values that show the same text -/

theorem Logged.collect_congr {α β : Type} (f g : α → Logged (List β)) (l : List α)
    (h : ∀ a ∈ l, f a = g a) : collect f l = collect g l := by
  induction l with
  | nil => rfl
  | cons a rest ih =>
    have hfirst := h a (List.mem_cons_self ..)
    have hrest := ih fun b hb => h b (List.mem_cons_of_mem _ hb)
    rw [collect, collect, hfirst, hrest]

namespace Value.SameText

variable {v w : Value} (h : v.SameText w)

include h

theorem toTimestamp (layout : Calendar.Layout) : v.toTimestamp layout = w.toTimestamp layout := by
  rw [v.toTimestamp_of_timeless layout h.timeless_left,
    w.toTimestamp_of_timeless layout h.timeless_right, h.chars]

theorem find (rule : Rule) (hrule : rule.ReadsAlike v w) : rule.find v = rule.find w := by
  obtain ⟨hcustom, hbound⟩ := hrule
  cases rule with
  | min bound | max bound =>
    obtain ⟨n, hv, hw⟩ := hbound rfl
    simp only [Rule.find, Finding.ofBound, hv, hw]
  | timeFormat layout => simp only [Rule.find, h.toTimestamp layout]
  | after boundary | before boundary =>
    simp only [Rule.find, h.timeless_left, h.timeless_right]
  | custom check => cases hcustom
  | _ => simp only [Rule.find, h.chars]

omit h in
/-- A bound that finds a number is no mismatch, so the kind of the value is not reported. -/
theorem find_ne_notNumeric (rule : Rule) (hrule : rule.ReadsAlike v w) :
    rule.find v ≠ .notNumeric := by
  intro hfind
  have hmismatch := rule.explains_find v
  rw [hfind] at hmismatch
  have hnone : rule.isBound = true ∧ v.toInteger = none := by
    cases rule with
    | min bound | max bound => exact ⟨rfl, hmismatch⟩
    | _ => exact hmismatch.elim
  obtain ⟨n, hn, _⟩ := hrule.2 hnone.1
  rw [hnone.2] at hn
  cases hn

theorem check_constraint (options : Options) (field : String) (c : Constraint)
    (hrule : c.rule.ReadsAlike v w) : c.check options field v = c.check options field w := by
  have hfind := h.find c.rule hrule
  have hnumeric := find_ne_notNumeric c.rule hrule
  unfold Constraint.check
  rw [← hfind]
  cases hf : c.rule.find v with
  | notNumeric => exact absurd hf hnumeric
  | _ => rfl

theorem check (options : Options) (field : String) (constraints : Constraints)
    (hrules : ∀ c ∈ constraints, c.rule.ReadsAlike v w) :
    constraints.check options field (some v) = constraints.check options field (some w) := by
  have hcollect : constraints.checkPresent options field v =
      constraints.checkPresent options field w := by
    simp only [Constraints.checkPresent]
    rw [Logged.collect_congr _ _ constraints fun c hc =>
      h.check_constraint options field c (hrules c hc)]
  by_cases hempty : w.isEmpty = true
  · simp only [Constraints.check, Option.filter, h.isEmpty, hempty, Bool.not_true,
      Bool.false_eq_true, ↓reduceIte]
  · simp only [Constraints.check, Option.filter, h.isEmpty, hempty, Bool.not_false, ↓reduceIte,
      hcollect]

theorem checkField (s : Session) (field : String) (constraints : Constraints)
    (hrules : ∀ c ∈ constraints, c.rule.ReadsAlike v w) :
    s.checkField field (some v) constraints = s.checkField field (some w) constraints := by
  rw [Session.checkField, h.check s.options field constraints hrules, Session.checkField]

end Value.SameText

/-! ### Integers -/

/-- The values that hold an integer: a signed or an unsigned number, or a text that writes it
in decimal. -/
inductive IntegerForm (z : Int) : Value → Prop
  | int (n : Int64) (h : n.toInt = z) : IntegerForm z (.int n)
  | uint (n : UInt64) (h : (n.toNat : Int) = z) : IntegerForm z (.uint n)
  | text : IntegerForm z (.text (toString z))

namespace IntegerForm

variable {z : Int} {v : Value}

theorem chars (h : IntegerForm z v) : v.chars = Number.integer z := by
  cases h with
  | int n hn => rw [Value.chars, hn]
  | uint n hn =>
    subst hn
    rfl
  | text => rw [Value.chars, ← Number.ofList_integer, String.toList_ofList]

theorem asTimestamp (h : IntegerForm z v) : v.asTimestamp = none := by
  cases h <;> rfl

theorem isEmpty (h : IntegerForm z v) (hz : z ≠ 0) : v.isEmpty = false := by
  cases h with
  | int n hn =>
    have hzero : n ≠ 0 := by
      rintro rfl
      exact hz hn.symm
    simpa [Value.isEmpty] using hzero
  | uint n hn =>
    have hzero : n ≠ 0 := by
      rintro rfl
      exact hz hn.symm
    simpa [Value.isEmpty] using hzero
  | text =>
    have hfilled := Value.isEmpty_text_append [] [] (Number.integer_ne_nil z)
    rw [List.nil_append, List.append_nil, Number.ofList_integer] at hfilled
    exact hfilled

theorem toInteger (h : IntegerForm z v) (hlow : -(Number.twoPow 63 : Int) ≤ z)
    (hhigh : z < Number.twoPow 64) : v.toInteger = some (Int64.ofIntClamp z) := by
  cases h with
  | int n hn => rw [Value.toInteger, ← hn, Int64.ofIntClamp_toInt]
  | uint n hn => rw [Value.toInteger, hn]
  | text =>
    have hread : Number.readSigned 128 (Number.integer z) = some z := by
      have hleast : (Number.twoPow 63 : Int) ≤ Number.twoPow (128 - 1) := by decide
      have hmost : (Number.twoPow 64 : Int) ≤ Number.twoPow (128 - 1) := by decide
      apply Number.readSigned_integer
      omega
    rw [Value.toInteger, ← Number.ofList_integer, String.toList_ofList, Number.trim_integer,
      hread, Option.map_some]

theorem sameText {w : Value} (hv : IntegerForm z v) (hw : IntegerForm z w) (hz : z ≠ 0) :
    v.SameText w where
  chars := hv.chars.trans hw.chars.symm
  isEmpty := (hv.isEmpty hz).trans (hw.isEmpty hz).symm
  timeless_left := hv.asTimestamp
  timeless_right := hw.asTimestamp

end IntegerForm

/-- An integer other than zero that fits 64 bits is checked alike in all its forms, bounds
included: with the same violations and events, by any constraints but custom ones. -/
theorem integer_forms_checked_alike (z : Int) (hz : z ≠ 0)
    (hlow : -(Number.twoPow 63 : Int) ≤ z) (hhigh : z < Number.twoPow 64) :
    (z < Number.twoPow 63 → IntegerForm z (.int (Int64.ofInt z))) ∧
    (0 ≤ z → IntegerForm z (.uint (UInt64.ofNat z.toNat))) ∧
    IntegerForm z (.text (toString z)) ∧
    ∀ v w, IntegerForm z v → IntegerForm z w →
      ∀ constraints : Constraints, (∀ c ∈ constraints, c.rule.isCustom = false) →
        ∀ (options : Options) (field : String) (s : Session),
          constraints.check options field (some v) = constraints.check options field (some w) ∧
          s.checkField field (some v) constraints = s.checkField field (some w) constraints := by
  refine ⟨?_, ?_, .text, ?_⟩
  · intro hsigned
    exact .int _ (Int64.toInt_ofInt_of_le hlow hsigned)
  · intro hunsigned
    have hsize : (Number.twoPow 64 : Int) = 18446744073709551616 := rfl
    apply IntegerForm.uint
    rw [UInt64.toNat_ofNat']
    omega
  · intro v w hv hw constraints hcustom options field s
    have hsame := hv.sameText hw hz
    have hrules : ∀ c ∈ constraints, c.rule.ReadsAlike v w := fun c hc =>
      ⟨hcustom c hc, fun _ => ⟨_, hv.toInteger hlow hhigh, hw.toInteger hlow hhigh⟩⟩
    exact ⟨hsame.check options field constraints hrules,
      hsame.checkField s field constraints hrules⟩

/-- The largest number of 64 bits, which no signed number holds. -/
theorem largest_number_checked_as_text :
    let constraints : Constraints := [⟨.max 5, none⟩, ⟨.alpha, none⟩, ⟨.minLength 20, none⟩]
    let found : List Violation :=
      [⟨"n", "Must be at most 5", "max"⟩, ⟨"n", "Must contain only letters", "alpha"⟩]
    (constraints.check {} "n" (some (.uint 18446744073709551615))).value = found ∧
      (constraints.check {} "n" (some (.text "18446744073709551615"))).value = found := by
  intro constraints found
  have hfound : (constraints.check {} "n" (some (.uint 18446744073709551615))).value = found := by
    decide
  have halike := (integer_forms_checked_alike 18446744073709551615 (by decide) (by decide)
    (by decide)).2.2.2 _ _ (.uint 18446744073709551615 rfl) .text constraints (by decide) {} "n" {}
  have htext : toString (18446744073709551615 : Int) = "18446744073709551615" := rfl
  rw [htext] at halike
  exact ⟨hfound, by rw [← halike.1, hfound]⟩

/-! ### Bytes -/

namespace Value

theorem toText_bytes_toUTF8 (s : String) : (bytes s.toUTF8).toText = s := by
  rw [toText, chars, Text.ofUtf8Lossy_toUTF8, String.ofList_toList]

theorem sameText_bytes_toUTF8 (s : String) : (bytes s.toUTF8).SameText (text s) where
  chars := by rw [chars, chars, Text.ofUtf8Lossy_toUTF8]
  isEmpty := rfl
  timeless_left := rfl
  timeless_right := rfl

end Value

/-- The bytes of a text in UTF-8 are checked as the text is, with the same violations and
events, by any constraints but numeric bounds and custom ones. They show the text, they are
empty where it is, and they show the same point in time in every layout, or none for the same
reason. -/
theorem utf8_bytes_checked_as_text (s : String) :
    (Value.bytes s.toUTF8).toText = s ∧
    (Value.bytes s.toUTF8).isEmpty = s.isEmpty ∧
    (∀ layout, (Value.bytes s.toUTF8).toTimestamp layout = (Value.text s).toTimestamp layout) ∧
    ∀ constraints : Constraints,
      (∀ c ∈ constraints, c.rule.isBound = false ∧ c.rule.isCustom = false) →
        ∀ (options : Options) (field : String) (session : Session),
          constraints.check options field (some (.bytes s.toUTF8)) =
            constraints.check options field (some (.text s)) ∧
          session.checkField field (some (.bytes s.toUTF8)) constraints =
            session.checkField field (some (.text s)) constraints := by
  have hsame := Value.sameText_bytes_toUTF8 s
  refine ⟨Value.toText_bytes_toUTF8 s, rfl, hsame.toTimestamp, ?_⟩
  intro constraints hplain options field session
  have hrules : ∀ c ∈ constraints, c.rule.ReadsAlike (.bytes s.toUTF8) (.text s) := by
    intro c hc
    obtain ⟨hbound, hcustom⟩ := hplain c hc
    refine ⟨hcustom, fun htrue => ?_⟩
    rw [hbound] at htrue
    cases htrue
  exact ⟨hsame.check options field constraints hrules,
    hsame.checkField session field constraints hrules⟩

theorem four_characters_checked_as_text :
    let constraints : Constraints := [⟨.minLength 5, none⟩, ⟨.maxLength 4, none⟩]
    let data : ByteArray := ⟨#[0x61, 0xC3, 0xA9, 0xE2, 0x82, 0xAC, 0xF0, 0x9D, 0x84, 0x9E]⟩
    let found : List Violation := [⟨"note", "Must be at least 5 characters", "min_len"⟩]
    (constraints.check {} "note" (some (.bytes data))).value = found ∧
      (constraints.check {} "note" (some (.text "aé€𝄞"))).value = found := by
  intro constraints data found
  have hdata : data = "aé€𝄞".toUTF8 := rfl
  have hfound : (constraints.check {} "note" (some (.text "aé€𝄞"))).value = found := by decide
  have halike := (utf8_bytes_checked_as_text "aé€𝄞").2.2.2 constraints (by decide) {} "note" {}
  exact ⟨by rw [hdata, halike.1, hfound], hfound⟩

end Fieldwise
