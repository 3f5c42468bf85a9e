import Fieldwise.Proofs.Pattern.Meaning

/-!
# Patterns of whole texts

A pattern that begins with `^` and ends with `$` matches a text as a whole. If what each of its
parts describes does not depend on the neighbours, the text is made of pieces, one for each part
in turn. A counted set describes the texts of its characters whose length is in bounds.
-/

namespace Fieldwise.Pattern

/-- Texts of these kinds, one after another. -/
def InTurn : List (List Char → Prop) → List Char → Prop
  | [], cs => cs = []
  | texts :: rest, cs => ∃ xs ys, cs = xs ++ ys ∧ texts xs ∧ InTurn rest ys

/-- The texts of characters of a set, so many at least, and so many at most where there is a
bound that is not below it. -/
def Counted (set : CharSet) (least : Nat) (most : Option Nat) (cs : List Char) : Prop :=
  least ≤ cs.length ∧ (∀ m ∈ most, cs.length ≤ max least m) ∧ ∀ c ∈ cs, set c = true

/-- One or more characters, all of them of this kind. -/
def OneOrMore (kind : Char → Prop) (cs : List Char) : Prop := cs ≠ [] ∧ ∀ c ∈ cs, kind c

/-- So many characters of this kind. -/
def Exactly (n : Nat) (kind : Char → Prop) (cs : List Char) : Prop :=
  cs.length = n ∧ ∀ c ∈ cs, kind c

theorem inTurn_last_iff (texts : List Char → Prop) (cs : List Char) :
    InTurn [texts] cs ↔ texts cs := by
  constructor
  · rintro ⟨xs, _, rfl, hxs, rfl⟩
    rw [List.append_nil]
    exact hxs
  · intro hcs
    exact ⟨cs, [], (List.append_nil cs).symm, hcs, rfl⟩

theorem exactly_one_iff (kind : Char → Prop) (cs : List Char) :
    Exactly 1 kind cs ↔ ∃ c, cs = [c] ∧ kind c := by
  constructor
  · rintro ⟨hone, hkind⟩
    obtain ⟨c, rfl⟩ := List.length_eq_one_iff.mp hone
    exact ⟨c, rfl, hkind c (List.mem_singleton_self c)⟩
  · rintro ⟨c, rfl, hc⟩
    exact ⟨rfl, fun d hd => List.mem_singleton.mp hd ▸ hc⟩

theorem inTurn_char_iff (c : Char) (rest : List (List Char → Prop)) (cs : List Char) :
    InTurn (Exactly 1 (· = c) :: rest) cs ↔ ∃ ys, cs = c :: ys ∧ InTurn rest ys := by
  constructor
  · rintro ⟨_, ys, rfl, hone, hys⟩
    obtain ⟨d, rfl, rfl⟩ := (exactly_one_iff ..).mp hone
    exact ⟨ys, rfl, hys⟩
  · rintro ⟨ys, rfl, hys⟩
    exact ⟨[c], ys, rfl, (exactly_one_iff ..).mpr ⟨c, rfl, rfl⟩, hys⟩

namespace Regex

/-- The expression describes these texts, whatever stands before and after them. -/
def Describes (r : Regex) (texts : List Char → Prop) : Prop :=
  ∀ before cs after, r.Matches before cs after ↔ texts cs

/-! ### Characters -/

theorem describes_ofSet (set : CharSet) :
    (ofSet set).Describes fun cs => ∃ c, cs = [c] ∧ set c = true :=
  fun _ _ _ => Iff.rfl

/-! ### Parts -/

theorem Describes.joined_iff {first second : Regex} {these those : List Char → Prop}
    (hfirst : first.Describes these) (hsecond : second.Describes those)
    (before after : Option Char) (cs : List Char) :
    (seq first second).Matches before cs after ↔
      ∃ xs ys, cs = xs ++ ys ∧ these xs ∧ those ys := by
  apply exists_congr
  intro xs
  apply exists_congr
  intro ys
  rw [hfirst, hsecond]

/-- What may be there or not. -/
theorem Describes.optional {r : Regex} {texts : List Char → Prop} (h : r.Describes texts) :
    (r.repeated 0 (some 1)).Describes fun cs => cs = [] ∨ texts cs := by
  intro before cs after
  have honce : r.repeated 0 (some 1) = .seq .empty (.alt .empty (.seq r .empty)) := rfl
  rw [honce, matches_empty_seq_iff]
  exact or_congr Iff.rfl ((matches_seq_empty_iff ..).trans (h before cs after))

/-! ### Counted sets -/

theorem matches_empty_iff (set : CharSet) (before after : Option Char) (cs : List Char) :
    Regex.empty.Matches before cs after ↔ cs.length ≤ 0 ∧ ∀ c ∈ cs, set c = true := by
  rw [Nat.le_zero, List.length_eq_zero_iff]
  constructor
  · intro hcs
    have hnil : cs = [] := hcs
    rw [hnil]
    exact ⟨rfl, List.forall_mem_nil _⟩
  · rintro ⟨hnil, _⟩
    exact hnil

theorem matches_ofSet_seq_iff (set : CharSet) (r : Regex) (before after : Option Char)
    (cs : List Char) :
    (seq (ofSet set) r).Matches before cs after ↔
      ∃ c rest, cs = c :: rest ∧ set c = true ∧ r.Matches (some c) rest after := by
  constructor
  · rintro ⟨_, rest, rfl, ⟨c, rfl, hset⟩, hrest⟩
    exact ⟨c, rest, rfl, hset, hrest⟩
  · rintro ⟨c, rest, rfl, hset, hrest⟩
    exact ⟨[c], rest, rfl, ⟨c, rfl, hset⟩, hrest⟩

theorem describes_times (set : CharSet) (n : Nat) :
    ((ofSet set).times n).Describes fun cs => cs.length = n ∧ ∀ c ∈ cs, set c = true := by
  induction n with
  | zero =>
    intro before cs after
    show Regex.empty.Matches before cs after ↔ cs.length = 0 ∧ ∀ c ∈ cs, set c = true
    rw [matches_empty_iff set, Nat.le_zero]
  | succ n ih =>
    intro before cs after
    -- A single one stands for itself, which is the same as with no more of them after it.
    have hsucc : ((ofSet set).times (n + 1)).Matches before cs after ↔
        (seq (ofSet set) ((ofSet set).times n)).Matches before cs after := by
      cases n with
      | zero => exact (matches_seq_empty_iff ..).symm
      | succ n => exact Iff.rfl
    rw [hsucc, matches_ofSet_seq_iff]
    constructor
    · rintro ⟨c, rest, rfl, hset, hrest⟩
      obtain ⟨hlength, hall⟩ := (ih ..).mp hrest
      exact ⟨congrArg (· + 1) hlength, List.forall_mem_cons.mpr ⟨hset, hall⟩⟩
    · rintro ⟨hlength, hall⟩
      obtain ⟨c, rest, rfl⟩ := List.exists_cons_of_length_eq_add_one hlength
      obtain ⟨hset, hrest⟩ := List.forall_mem_cons.mp hall
      exact ⟨c, rest, rfl, hset, (ih ..).mpr ⟨Nat.succ.inj hlength, hrest⟩⟩

theorem describes_upTo (set : CharSet) (n : Nat) :
    ((ofSet set).upTo n).Describes fun cs => cs.length ≤ n ∧ ∀ c ∈ cs, set c = true := by
  induction n with
  | zero => exact fun before cs after => matches_empty_iff set before after cs
  | succ n ih =>
    intro before cs after
    show cs = [] ∨ (seq (ofSet set) ((ofSet set).upTo n)).Matches before cs after ↔
      cs.length ≤ n + 1 ∧ ∀ c ∈ cs, set c = true
    rw [matches_ofSet_seq_iff]
    constructor
    · rintro (rfl | ⟨c, rest, rfl, hset, hrest⟩)
      · exact ⟨Nat.zero_le _, List.forall_mem_nil _⟩
      · obtain ⟨hlength, hall⟩ := (ih ..).mp hrest
        exact ⟨Nat.succ_le_succ hlength, List.forall_mem_cons.mpr ⟨hset, hall⟩⟩
    · rintro ⟨hlength, hall⟩
      cases cs with
      | nil => exact .inl rfl
      | cons c rest =>
        obtain ⟨hset, hrest⟩ := List.forall_mem_cons.mp hall
        exact .inr ⟨c, rest, rfl, hset, (ih ..).mpr ⟨Nat.le_of_succ_le_succ hlength, hrest⟩⟩

/-- A text of the set is cut after the characters that have to be there. -/
theorem exists_cut_iff (set : CharSet) (least : Nat) (few : Nat → Prop) (cs : List Char) :
    (∃ xs ys, cs = xs ++ ys ∧ (xs.length = least ∧ ∀ c ∈ xs, set c = true) ∧
        few ys.length ∧ ∀ c ∈ ys, set c = true) ↔
      least ≤ cs.length ∧ few (cs.length - least) ∧ ∀ c ∈ cs, set c = true := by
  constructor
  · rintro ⟨xs, ys, rfl, ⟨rfl, hxs⟩, hfew, hys⟩
    rw [List.length_append, Nat.add_sub_cancel_left]
    exact ⟨Nat.le_add_right .., hfew, List.forall_mem_append.mpr ⟨hxs, hys⟩⟩
  · rintro ⟨hleast, hfew, hall⟩
    refine ⟨cs.take least, cs.drop least, (List.take_append_drop ..).symm, ⟨?_, ?_⟩, ?_, ?_⟩
    · rw [List.length_take, Nat.min_eq_left hleast]
    · exact fun c hc => hall c (List.mem_of_mem_take hc)
    · rw [List.length_drop]
      exact hfew
    · exact fun c hc => hall c (List.mem_of_mem_drop hc)

theorem describes_repeated (set : CharSet) (least : Nat) (most : Option Nat) :
    ((ofSet set).repeated least most).Describes (Counted set least most) := by
  intro before cs after
  cases most with
  | none =>
    have hstar : (star (ofSet set)).Describes fun ys => True ∧ ∀ c ∈ ys, set c = true := by
      intro before ys after
      show Repeated (ofSet set).Matches before ys after ↔ True ∧ ∀ c ∈ ys, set c = true
      rw [true_and, repeated_ofSet_iff]
    rw [repeated, (describes_times set least).joined_iff hstar,
      exists_cut_iff set least fun _ => True]
    simp [Counted]
  | some most =>
    rw [repeated, (describes_times set least).joined_iff (describes_upTo set (most - least)),
      exists_cut_iff set least (· ≤ most - least), Counted]
    apply and_congr_right
    intro hleast
    have hbound : cs.length - least ≤ most - least ↔ cs.length ≤ max least most := by omega
    simp [hbound]

section

variable {set : CharSet} {kind : Char → Prop} (h : ∀ c, set c = true ↔ kind c)

include h

theorem describes_one : (ofSet set).Describes (Exactly 1 kind) := by
  intro before cs after
  rw [describes_ofSet, exactly_one_iff]
  simp only [h]

theorem describes_exactly (n : Nat) :
    ((ofSet set).repeated n (some n)).Describes (Exactly n kind) := by
  intro before cs after
  rw [describes_repeated, Counted, Exactly]
  have hlength : n ≤ cs.length ∧ (∀ m ∈ some n, cs.length ≤ max n m) ↔ cs.length = n := by
    simp only [Option.mem_some_iff, forall_eq', Nat.max_self]
    omega
  simp only [← and_assoc, hlength, h]

theorem describes_anyNumber :
    ((ofSet set).repeated 0 none).Describes fun cs => ∀ c ∈ cs, kind c := by
  intro before cs after
  rw [describes_repeated, Counted]
  simp [h]

theorem describes_oneOrMore : ((ofSet set).repeated 1 none).Describes (OneOrMore kind) := by
  intro before cs after
  rw [describes_repeated, Counted, OneOrMore]
  have hlength : 1 ≤ cs.length ↔ cs ≠ [] := List.length_pos_iff
  simp [hlength, h]

end

/-! ### Whole texts -/

/-- The parts one after another, from `^` to `$`. -/
def whole (parts : List Regex) : Regex :=
  .seq (.test (Assertion.lineStart.holds {}))
    (parts.foldr .seq (.seq (.test (Assertion.lineEnd.holds {})) .empty))

variable {parts : List Regex} {texts : List (List Char → Prop)}

theorem matches_toEnd_iff (h : List.Forall₂ Describes parts texts) (before after : Option Char)
    (cs : List Char) :
    (parts.foldr seq (.seq (.test (Assertion.lineEnd.holds {})) .empty)).Matches before cs after ↔
      InTurn texts cs ∧ after = none := by
  induction h generalizing before cs with
  | nil =>
    have hend : ∀ p : Position, Assertion.lineEnd.holds {} p = p.after.isNone := fun _ => rfl
    rw [List.foldr_nil, matches_test_seq_iff, hend, Option.isNone_iff_eq_none]
    constructor
    · rintro ⟨hnone, rfl⟩
      exact ⟨rfl, hnone⟩
    · rintro ⟨rfl, hnone⟩
      exact ⟨hnone, rfl⟩
  | cons hpart _ ih =>
    constructor
    · rintro ⟨xs, ys, rfl, hxs, hys⟩
      obtain ⟨hrest, hnone⟩ := (ih _ _).mp hys
      exact ⟨⟨xs, ys, rfl, (hpart ..).mp hxs, hrest⟩, hnone⟩
    · rintro ⟨⟨xs, ys, rfl, hxs, hrest⟩, hnone⟩
      exact ⟨xs, ys, rfl, (hpart ..).mpr hxs, (ih _ _).mpr ⟨hrest, hnone⟩⟩

theorem matches_whole_iff (h : List.Forall₂ Describes parts texts) (before after : Option Char)
    (cs : List Char) :
    (whole parts).Matches before cs after ↔ before = none ∧ InTurn texts cs ∧ after = none := by
  have hstart : ∀ p : Position, Assertion.lineStart.holds {} p = p.before.isNone := fun _ => rfl
  rw [whole, matches_test_seq_iff, hstart, Option.isNone_iff_eq_none, matches_toEnd_iff h]

end Regex

/-- The search for a pattern of whole texts finds nothing less than a whole text. -/
theorem isMatch_whole_iff {parts : List Regex} {texts : List (List Char → Prop)}
    (h : List.Forall₂ Regex.Describes parts texts) (p : Pattern)
    (hp : meaning p.source = .ok (.whole parts)) (cs : List Char) :
    p.isMatch cs = true ↔ InTurn texts cs := by
  have hregex : p.regex = .whole parts := Except.ok.inj (p.meaning_source.symm.trans hp)
  rw [isMatch_iff, hregex]
  simp only [Regex.matches_whole_iff h, List.getLast?_eq_none_iff, List.head?_eq_none_iff]
  constructor
  · rintro ⟨pre, mid, post, rfl, rfl, hmid, rfl⟩
    rw [List.nil_append, List.append_nil]
    exact hmid
  · intro hcs
    exact ⟨[], cs, [], (List.append_nil cs).symm, rfl, hcs, rfl⟩

/-- A text with a meaning of this kind is a pattern, which matches texts of pieces in turn. -/
theorem exists_compile_whole {source : String} {parts : List Regex}
    {texts : List (List Char → Prop)} (hmeaning : meaning source = .ok (.whole parts))
    (h : List.Forall₂ Regex.Describes parts texts) :
    ∃ p, compile source = .ok p ∧ ∀ cs, p.isMatch cs = true ↔ InTurn texts cs := by
  let p : Pattern := ⟨source, .whole parts, hmeaning⟩
  exact ⟨p, compile_source p, isMatch_whole_iff h p hmeaning⟩

end Fieldwise.Pattern
