import Fieldwise.Proofs.Number.Written
import Fieldwise.Proofs.Pattern.Whole

/-!
# Letters, digits, numbers and UUIDs

These formats say which ASCII characters may stand where: letters, or letters and digits, up to
the end; a sign, digits, and perhaps a point with digits after it; thirty-six places for hexadecimal
digits and hyphens. The scan of each accepts these texts and no others, and it does what the
search for the pattern of the format does, on every text.
-/

namespace Fieldwise

open Number (WrittenNumber)
open Pattern (Exactly InTurn OneOrMore exactly_one_iff inTurn_char_iff inTurn_last_iff)

/-! ### Characters -/

def AsciiDigit (c : Char) : Prop := 48 ≤ c.toNat ∧ c.toNat ≤ 57

def AsciiLetter (c : Char) : Prop :=
  (97 ≤ c.toNat ∧ c.toNat ≤ 122) ∨ (65 ≤ c.toNat ∧ c.toNat ≤ 90)

def AsciiLetterOrDigit (c : Char) : Prop := AsciiLetter c ∨ AsciiDigit c

/-- A digit, or one of the first six letters in either case. -/
def HexDigit (c : Char) : Prop :=
  AsciiDigit c ∨ (97 ≤ c.toNat ∧ c.toNat ≤ 102) ∨ (65 ≤ c.toNat ∧ c.toNat ≤ 70)

/-! ### Texts -/

/-- An optional sign, digits, and an optional point with digits after it. -/
def NumberText (cs : List Char) : Prop :=
  ∃ sign whole tail, cs = sign ++ (whole ++ tail) ∧ (sign = [] ∨ sign = ['+'] ∨ sign = ['-']) ∧
    OneOrMore AsciiDigit whole ∧
    (tail = [] ∨ ∃ fraction, tail = '.' :: fraction ∧ OneOrMore AsciiDigit fraction)

def UuidVersion (c : Char) : Prop := '1' ≤ c ∧ c ≤ '5'

def UuidVariant (c : Char) : Prop := c ∈ ['8', '9', 'a', 'b', 'A', 'B']

/-- The characters that a place of a UUID may hold, the places counted from zero: a hyphen, the
version, the variant, or any hexadecimal digit. -/
def UuidPlace (place : Nat) : Char → Prop :=
  if place ∈ [8, 13, 18, 23] then (· = '-')
  else if place = 14 then UuidVersion
  else if place = 19 then UuidVariant
  else HexDigit

/-- Thirty-six characters, each of them one that its place may hold. -/
def UuidText (cs : List Char) : Prop :=
  cs.length = 36 ∧ ∀ place (h : place < cs.length), UuidPlace place cs[place]

/-! ### Characters of the scans -/

theorem isDigit_iff (c : Char) : c.isDigit = true ↔ AsciiDigit c := by
  simp only [Char.isDigit, Bool.and_eq_true, decide_eq_true_eq, ge_iff_le]
  exact Iff.rfl

theorem isLetter_iff (c : Char) : Format.isLetter c = true ↔ AsciiLetter c := by
  simp only [Format.isLetter, Bool.or_eq_true, Bool.and_eq_true, decide_eq_true_eq]
  exact Iff.rfl

theorem isLetterOrDigit_iff (c : Char) :
    Format.isLetterOrDigit c = true ↔ AsciiLetterOrDigit c := by
  rw [Format.isLetterOrDigit, Bool.or_eq_true, isLetter_iff, isDigit_iff, AsciiLetterOrDigit]

theorem isHexDigit_iff (c : Char) : Number.isHexDigit c = true ↔ HexDigit c := by
  have hdigit : '0' ≤ c ∧ c ≤ '9' ↔ AsciiDigit c := Iff.rfl
  have hlower : 'a' ≤ c ∧ c ≤ 'f' ↔ 97 ≤ c.toNat ∧ c.toNat ≤ 102 := Iff.rfl
  have hupper : 'A' ≤ c ∧ c ≤ 'F' ↔ 65 ≤ c.toNat ∧ c.toNat ≤ 70 := Iff.rfl
  rw [HexDigit, ← hdigit, ← hlower, ← hupper, Number.isHexDigit, Number.hexDigit?]
  split
  · simp only [Option.isSome_some, true_iff]
    exact .inl ‹_›
  · split
    · simp only [Option.isSome_some, true_iff]
      exact .inr (.inl ‹_›)
    · split
      · simp only [Option.isSome_some, true_iff]
        exact .inr (.inr ‹_›)
      · simp only [Option.isSome_none, Bool.false_eq_true, false_iff]
        rintro (h | h | h)
        · contradiction
        · contradiction
        · contradiction

theorem oneOrMore_iff {test : Char → Bool} {kind : Char → Prop}
    (h : ∀ c, test c = true ↔ kind c) (cs : List Char) :
    (cs != [] && cs.all test) = true ↔ OneOrMore kind cs := by
  simp only [Bool.and_eq_true, bne_iff_ne, List.all_eq_true, h, OneOrMore]

/-! ### Numbers -/

theorem numberText_iff (cs : List Char) : NumberText cs ↔ ∃ n : WrittenNumber, n.chars = cs := by
  have hdigits : ∀ ds, OneOrMore AsciiDigit ds ↔ ∃ d : Number.Digits, d.chars = ds := fun ds =>
    (oneOrMore_iff isDigit_iff ds).symm.trans (Number.isDigits_iff ds)
  constructor
  · rintro ⟨sign, whole, tail, rfl, hsign, hwhole, htail⟩
    obtain ⟨s, hs⟩ : ∃ s : Number.Sign, s.chars = sign := by
      rcases hsign with rfl | rfl | rfl
      · exact ⟨.none, rfl⟩
      · exact ⟨.plus, rfl⟩
      · exact ⟨.minus, rfl⟩
    obtain ⟨w, hw⟩ := (hdigits whole).mp hwhole
    rcases htail with rfl | ⟨fraction, rfl, hfraction⟩
    · exact ⟨⟨s, w, none⟩, by rw [WrittenNumber.chars, hs, hw]; rfl⟩
    · obtain ⟨f, hf⟩ := (hdigits fraction).mp hfraction
      exact ⟨⟨s, w, some f⟩, by simp only [WrittenNumber.chars, WrittenNumber.tail, hs, hw, hf]⟩
  · rintro ⟨n, rfl⟩
    refine ⟨n.sign.chars, n.whole.chars, n.tail, rfl, ?_, (hdigits _).mpr ⟨n.whole, rfl⟩, ?_⟩
    · cases n.sign with
      | none => exact .inl rfl
      | plus => exact .inr (.inl rfl)
      | minus => exact .inr (.inr rfl)
    · unfold WrittenNumber.tail
      cases n.fraction with
      | none => exact .inl rfl
      | some f => exact .inr ⟨f.chars, rfl, (hdigits _).mpr ⟨f, rfl⟩⟩

/-! ### UUIDs -/

/-- The parts of a UUID: how many characters, and of which kind. -/
def uuidParts : List (Nat × (Char → Prop)) :=
  [(8, HexDigit), (1, (· = '-')), (4, HexDigit), (1, (· = '-')),
    (1, UuidVersion), (3, HexDigit), (1, (· = '-')), (1, UuidVariant), (3, HexDigit),
    (1, (· = '-')), (12, HexDigit)]

theorem exactly_iff_forall₂ (n : Nat) (kind : Char → Prop) (cs : List Char) :
    Exactly n kind cs ↔ List.Forall₂ (fun kind c => kind c) (List.replicate n kind) cs := by
  induction n generalizing cs with
  | zero =>
    rw [Exactly, List.length_eq_zero_iff, List.replicate_zero, List.forall₂_nil_left_iff]
    constructor
    · exact fun h => h.1
    · rintro rfl
      exact ⟨rfl, List.forall_mem_nil _⟩
  | succ n ih =>
    rw [List.replicate_succ, List.forall₂_cons_left_iff]
    simp only [← ih]
    constructor
    · rintro ⟨hlength, hall⟩
      obtain ⟨c, rest, rfl⟩ := List.exists_cons_of_length_eq_add_one hlength
      obtain ⟨hc, hrest⟩ := List.forall_mem_cons.mp hall
      exact ⟨c, rest, hc, ⟨Nat.succ.inj hlength, hrest⟩, rfl⟩
    · rintro ⟨c, rest, hc, ⟨hlength, hrest⟩, rfl⟩
      exact ⟨congrArg (· + 1) hlength, List.forall_mem_cons.mpr ⟨hc, hrest⟩⟩

/-- Parts of so many characters one after another say what each place may hold. -/
theorem inTurn_iff_forall₂ (parts : List (Nat × (Char → Prop))) (cs : List Char) :
    InTurn (parts.map fun part => Exactly part.1 part.2) cs ↔
      List.Forall₂ (fun kind c => kind c)
        (parts.flatMap fun part => List.replicate part.1 part.2) cs := by
  induction parts generalizing cs with
  | nil => exact List.forall₂_nil_left_iff.symm
  | cons part parts ih =>
    obtain ⟨n, kind⟩ := part
    rw [List.map_cons, List.flatMap_cons]
    constructor
    · rintro ⟨xs, ys, rfl, hxs, hys⟩
      exact List.rel_append ((exactly_iff_forall₂ ..).mp hxs) ((ih ys).mp hys)
    · intro h
      have htake := List.forall₂_take n h
      have hdrop := List.forall₂_drop n h
      rw [List.take_left' List.length_replicate] at htake
      rw [List.drop_left' List.length_replicate] at hdrop
      exact ⟨cs.take n, cs.drop n, (List.take_append_drop n cs).symm,
        (exactly_iff_forall₂ ..).mpr htake, (ih _).mpr hdrop⟩

theorem uuidText_iff (cs : List Char) :
    UuidText cs ↔ InTurn (uuidParts.map fun part => Exactly part.1 part.2) cs := by
  have hplaces : (uuidParts.flatMap fun part => List.replicate part.1 part.2) =
      (List.range 36).map UuidPlace := rfl
  rw [inTurn_iff_forall₂, hplaces, List.forall₂_iff_get]
  simp only [UuidText, List.length_map, List.length_range, List.get_eq_getElem,
    List.getElem_map, List.getElem_range]
  constructor
  · rintro ⟨hlength, hplace⟩
    exact ⟨hlength.symm, fun place _ h => hplace place h⟩
  · rintro ⟨hlength, hplace⟩
    exact ⟨hlength.symm, fun place h => hplace place (hlength ▸ h) h⟩

theorem isHex_iff (n : Nat) (cs : List Char) :
    Format.isHex n cs = true ↔ Exactly n HexDigit cs := by
  simp only [Format.isHex, Bool.and_eq_true, beq_iff_eq, List.all_eq_true, isHexDigit_iff, Exactly]

theorem notMem_hyphen {n : Nat} {cs : List Char} (h : Exactly n HexDigit cs) :
    '-' ∉ cs := by
  intro hmem
  have hrange : HexDigit '-' := h.2 '-' hmem
  have hcode : ('-' : Char).toNat = 45 := rfl
  simp only [HexDigit, AsciiDigit, hcode] at hrange
  omega

/-- A group of a UUID that begins with a character of a kind of its own. -/
def MarkedGroup (mark : Char → Prop) (cs : List Char) : Prop :=
  Exactly 4 HexDigit cs ∧ ∃ c ∈ cs.head?, mark c

theorem inTurn_marked_iff (mark : Char → Prop) (hmark : ∀ c, mark c → HexDigit c)
    (rest : List (List Char → Prop)) (cs : List Char) :
    InTurn (Exactly 1 mark :: Exactly 3 HexDigit :: rest) cs ↔
      ∃ xs ys, cs = xs ++ ys ∧ MarkedGroup mark xs ∧ InTurn rest ys := by
  constructor
  · rintro ⟨_, _, rfl, hone, others, ys, rfl, ⟨hlength, hall⟩, hys⟩
    obtain ⟨c, rfl, hc⟩ := (exactly_one_iff ..).mp hone
    refine ⟨c :: others, ys, rfl, ⟨⟨?_, ?_⟩, c, rfl, hc⟩, hys⟩
    · rw [List.length_cons, hlength]
    · exact List.forall_mem_cons.mpr ⟨hmark c hc, hall⟩
  · rintro ⟨xs, ys, rfl, ⟨⟨hlength, hall⟩, c, hhead, hc⟩, hys⟩
    obtain ⟨others, rfl⟩ := List.head?_eq_some_iff.mp hhead
    exact ⟨[c], others ++ ys, rfl, (exactly_one_iff ..).mpr ⟨c, rfl, hc⟩, others, ys, rfl,
      ⟨Nat.succ.inj hlength, (List.forall_mem_cons.mp hall).2⟩, hys⟩

theorem UuidVersion.hexDigit (c : Char) (h : UuidVersion c) : HexDigit c := by
  have hrange : 49 ≤ c.toNat ∧ c.toNat ≤ 53 := h
  exact .inl ⟨by omega, by omega⟩

theorem UuidVariant.hexDigit (c : Char) (h : UuidVariant c) : HexDigit c := by
  have hvariants : ['8', '9', 'a', 'b', 'A', 'B'].all Number.isHexDigit = true := by decide
  exact (isHexDigit_iff c).mp (List.all_eq_true.mp hvariants c h)

/-- A UUID is five groups of hexadecimal digits with hyphens between them. -/
theorem uuidText_iff_groups (cs : List Char) :
    UuidText cs ↔ ∃ a b c d e, cs = a ++ '-' :: (b ++ '-' :: (c ++ '-' :: (d ++ '-' :: e))) ∧
      Exactly 8 HexDigit a ∧ Exactly 4 HexDigit b ∧ MarkedGroup UuidVersion c ∧
      MarkedGroup UuidVariant d ∧ Exactly 12 HexDigit e := by
  rw [uuidText_iff]
  simp only [uuidParts, List.map_cons, List.map_nil]
  constructor
  · rintro ⟨a, _, rfl, ha, hfirst⟩
    obtain ⟨_, rfl, b, _, rfl, hb, hsecond⟩ := (inTurn_char_iff ..).mp hfirst
    obtain ⟨_, rfl, hversion⟩ := (inTurn_char_iff ..).mp hsecond
    obtain ⟨c, _, rfl, hc, hthird⟩ := (inTurn_marked_iff _ UuidVersion.hexDigit ..).mp hversion
    obtain ⟨_, rfl, hvariant⟩ := (inTurn_char_iff ..).mp hthird
    obtain ⟨d, _, rfl, hd, hfourth⟩ := (inTurn_marked_iff _ UuidVariant.hexDigit ..).mp hvariant
    obtain ⟨e, rfl, he⟩ := (inTurn_char_iff ..).mp hfourth
    exact ⟨a, b, c, d, e, rfl, ha, hb, hc, hd, (inTurn_last_iff ..).mp he⟩
  · rintro ⟨a, b, c, d, e, rfl, ha, hb, hc, hd, he⟩
    refine ⟨a, _, rfl, ha, (inTurn_char_iff ..).mpr ⟨_, rfl, b, _, rfl, hb, ?_⟩⟩
    refine (inTurn_char_iff ..).mpr ⟨_, rfl, ?_⟩
    refine (inTurn_marked_iff _ UuidVersion.hexDigit ..).mpr ⟨c, _, rfl, hc, ?_⟩
    refine (inTurn_char_iff ..).mpr ⟨_, rfl, ?_⟩
    refine (inTurn_marked_iff _ UuidVariant.hexDigit ..).mpr ⟨d, _, rfl, hd, ?_⟩
    exact (inTurn_char_iff ..).mpr ⟨e, rfl, (inTurn_last_iff ..).mpr he⟩

theorem isUuid_iff (cs : List Char) : Format.isUuid cs = true ↔ UuidText cs := by
  rw [uuidText_iff_groups]
  constructor
  · intro h
    unfold Format.isUuid at h
    split at h
    · rename_i a b c d e hsplit
      simp only [Bool.and_eq_true, isHex_iff] at h
      obtain ⟨⟨⟨⟨⟨⟨ha, hb⟩, hc⟩, hd⟩, he⟩, hv⟩, hm⟩ := h
      have hversion : ∃ version ∈ c.head?, UuidVersion version := by
        cases hhead : c.head? with
        | none => simp [hhead] at hv
        | some version => exact ⟨version, rfl, by simpa [hhead, UuidVersion] using hv⟩
      have hvariant : ∃ mark ∈ d.head?, UuidVariant mark := by
        cases hhead : d.head? with
        | none => simp [hhead] at hm
        | some mark => exact ⟨mark, rfl, by simpa [hhead, UuidVariant] using hm⟩
      -- The groups between the hyphens make up the text again.
      have htext : ['-'].intercalate (cs.splitOn '-') = cs := List.intercalate_splitOn '-'
      rw [hsplit] at htext
      have hjoined : ['-'].intercalate [a, b, c, d, e] =
          a ++ '-' :: (b ++ '-' :: (c ++ '-' :: (d ++ '-' :: e))) := by
        simp [List.intercalate]
      exact ⟨a, b, c, d, e, htext.symm.trans hjoined, ha, hb, ⟨hc, hversion⟩, ⟨hd, hvariant⟩, he⟩
    · cases h
  · rintro ⟨a, b, c, d, e, rfl, ha, hb, ⟨hc, version, hversion, hv⟩, ⟨hd, mark, hmark, hm⟩, he⟩
    rw [Format.isUuid, List.splitOn_append_cons_self_of_not_mem (notMem_hyphen ha),
      List.splitOn_append_cons_self_of_not_mem (notMem_hyphen hb),
      List.splitOn_append_cons_self_of_not_mem (notMem_hyphen hc),
      List.splitOn_append_cons_self_of_not_mem (notMem_hyphen hd),
      List.splitOn_eq_singleton (notMem_hyphen he)]
    simp only [Bool.and_eq_true, isHex_iff, Option.mem_def.mp hversion, Option.mem_def.mp hmark,
      decide_eq_true_eq, List.contains_iff_mem]
    exact ⟨⟨⟨⟨⟨⟨ha, hb⟩, hc⟩, hd⟩, he⟩, hv⟩, hm⟩

/-! ### Patterns -/

namespace Pattern

def alphaSource : String := "^[a-zA-Z]+$"

def alphanumericSource : String := "^[a-zA-Z0-9]+$"

def numericSource : String := "^[-+]?[0-9]+(\\.[0-9]+)?$"

def uuidSource : String :=
  "^[0-9a-fA-F]\x7b8\x7d-[0-9a-fA-F]\x7b4\x7d-[1-5][0-9a-fA-F]\x7b3\x7d-[89abAB][0-9a-fA-F]\x7b3\x7d-[0-9a-fA-F]\x7b12\x7d$"

def letterSet : CharSet :=
  complementIf false fun c => ('a' ≤ c && c ≤ 'z') || (('A' ≤ c && c ≤ 'Z') || false)

def letterOrDigitSet : CharSet :=
  complementIf false fun c =>
    ('a' ≤ c && c ≤ 'z') || (('A' ≤ c && c ≤ 'Z') || (('0' ≤ c && c ≤ '9') || false))

def digitSet : CharSet := complementIf false fun c => '0' ≤ c && c ≤ '9'

def signSet : CharSet := complementIf false fun c => c == '-' || (c == '+' || false)

def hexSet : CharSet :=
  complementIf false fun c =>
    ('0' ≤ c && c ≤ '9') || (('a' ≤ c && c ≤ 'f') || (('A' ≤ c && c ≤ 'F') || false))

def versionSet : CharSet := complementIf false fun c => '1' ≤ c && c ≤ '5'

def variantSet : CharSet :=
  complementIf false fun c =>
    c == '8' || (c == '9' || (c == 'a' || (c == 'b' || (c == 'A' || (c == 'B' || false)))))

theorem complementIf_false (set : CharSet) (c : Char) : complementIf false set c = set c := by
  unfold complementIf
  cases set c with
  | false => rfl
  | true => rfl

theorem letterSet_iff (c : Char) : letterSet c = true ↔ AsciiLetter c := by
  simp only [letterSet, complementIf_false, Bool.or_eq_true, Bool.and_eq_true, decide_eq_true_eq,
    Bool.false_eq_true, or_false]
  exact Iff.rfl

theorem letterOrDigitSet_iff (c : Char) : letterOrDigitSet c = true ↔ AsciiLetterOrDigit c := by
  simp only [letterOrDigitSet, complementIf_false, Bool.or_eq_true, Bool.and_eq_true,
    decide_eq_true_eq, Bool.false_eq_true, or_false, ← or_assoc]
  exact Iff.rfl

theorem digitSet_iff (c : Char) : digitSet c = true ↔ AsciiDigit c := by
  simp only [digitSet, complementIf_false, Bool.and_eq_true, decide_eq_true_eq]
  exact Iff.rfl

theorem hexSet_iff (c : Char) : hexSet c = true ↔ HexDigit c := by
  simp only [hexSet, complementIf_false, Bool.or_eq_true, Bool.and_eq_true, decide_eq_true_eq,
    Bool.false_eq_true, or_false]
  exact Iff.rfl

theorem versionSet_iff (c : Char) : versionSet c = true ↔ UuidVersion c := by
  simp only [versionSet, complementIf_false, Bool.and_eq_true, decide_eq_true_eq, UuidVersion]

theorem variantSet_iff (c : Char) : variantSet c = true ↔ UuidVariant c := by
  simp [variantSet, complementIf_false, UuidVariant]

theorem exists_alpha_pattern :
    ∃ p, compile alphaSource = .ok p ∧ ∀ cs, p.isMatch cs = true ↔ OneOrMore AsciiLetter cs := by
  have hmeaning : meaning alphaSource =
      .ok (.whole [(Regex.ofSet letterSet).repeated 1 none]) := rfl
  obtain ⟨p, hcompile, hmatch⟩ :=
    exists_compile_whole hmeaning (.cons (Regex.describes_oneOrMore letterSet_iff) .nil)
  exact ⟨p, hcompile, fun cs => (hmatch cs).trans (inTurn_last_iff ..)⟩

theorem exists_alphanumeric_pattern :
    ∃ p, compile alphanumericSource = .ok p ∧
      ∀ cs, p.isMatch cs = true ↔ OneOrMore AsciiLetterOrDigit cs := by
  have hmeaning : meaning alphanumericSource =
      .ok (.whole [(Regex.ofSet letterOrDigitSet).repeated 1 none]) := rfl
  obtain ⟨p, hcompile, hmatch⟩ :=
    exists_compile_whole hmeaning (.cons (Regex.describes_oneOrMore letterOrDigitSet_iff) .nil)
  exact ⟨p, hcompile, fun cs => (hmatch cs).trans (inTurn_last_iff ..)⟩

def fractionRegex : Regex :=
  .seq (.ofSet (· == '.')) (.seq ((Regex.ofSet digitSet).repeated 1 none) .empty)

theorem describes_fractionRegex :
    fractionRegex.Describes fun cs => ∃ ds, cs = '.' :: ds ∧ OneOrMore AsciiDigit ds := by
  intro before cs after
  rw [fractionRegex, Regex.matches_ofSet_seq_iff]
  simp only [Regex.matches_seq_empty_iff, Regex.describes_oneOrMore digitSet_iff _ _ _, beq_iff_eq]
  constructor
  · rintro ⟨_, ds, rfl, rfl, hds⟩
    exact ⟨ds, rfl, hds⟩
  · rintro ⟨ds, rfl, hds⟩
    exact ⟨'.', ds, rfl, rfl, hds⟩

theorem exists_numeric_pattern :
    ∃ p, compile numericSource = .ok p ∧ ∀ cs, p.isMatch cs = true ↔ NumberText cs := by
  have hmeaning : meaning numericSource = .ok (.whole
      [(Regex.ofSet signSet).repeated 0 (some 1), (Regex.ofSet digitSet).repeated 1 none,
        fractionRegex.repeated 0 (some 1)]) := rfl
  obtain ⟨p, hcompile, hmatch⟩ := exists_compile_whole hmeaning
    (.cons (Regex.describes_ofSet signSet).optional
      (.cons (Regex.describes_oneOrMore digitSet_iff)
        (.cons describes_fractionRegex.optional .nil)))
  have hsign : ∀ cs, (cs = [] ∨ ∃ c, cs = [c] ∧ signSet c = true) ↔
      (cs = [] ∨ cs = ['+'] ∨ cs = ['-']) := by
    intro cs
    simp only [signSet, complementIf_false, Bool.or_eq_true, beq_iff_eq, Bool.false_eq_true,
      or_false]
    grind
  refine ⟨p, hcompile, fun cs => (hmatch cs).trans ?_⟩
  constructor
  · rintro ⟨sign, _, rfl, hs, whole, tail, rfl, hwhole, htail⟩
    exact ⟨sign, whole, tail, rfl, (hsign sign).mp hs, hwhole, (inTurn_last_iff ..).mp htail⟩
  · rintro ⟨sign, whole, tail, rfl, hs, hwhole, htail⟩
    exact ⟨sign, _, rfl, (hsign sign).mpr hs, whole, tail, rfl, hwhole,
      (inTurn_last_iff ..).mpr htail⟩

theorem exists_uuid_pattern :
    ∃ p, compile uuidSource = .ok p ∧ ∀ cs, p.isMatch cs = true ↔ UuidText cs := by
  let hex (n : Nat) : Regex := (Regex.ofSet hexSet).repeated n (some n)
  let hyphen : Regex := .ofSet (· == '-')
  have hmeaning : meaning uuidSource = .ok (.whole
      [hex 8, hyphen, hex 4, hyphen, .ofSet versionSet, hex 3, hyphen, .ofSet variantSet, hex 3,
        hyphen, hex 12]) := rfl
  have hhex : ∀ n, (hex n).Describes (Exactly n HexDigit) := Regex.describes_exactly hexSet_iff
  have hhyphen : hyphen.Describes (Exactly 1 (· = '-')) :=
    Regex.describes_one fun _ => beq_iff_eq
  have hversion := Regex.describes_one versionSet_iff
  have hvariant := Regex.describes_one variantSet_iff
  obtain ⟨p, hcompile, hmatch⟩ := exists_compile_whole hmeaning
    (.cons (hhex 8) (.cons hhyphen (.cons (hhex 4) (.cons hhyphen (.cons hversion (.cons (hhex 3)
      (.cons hhyphen (.cons hvariant (.cons (hhex 3) (.cons hhyphen (.cons (hhex 12) .nil)))))))))))
  exact ⟨p, hcompile, fun cs => (hmatch cs).trans (uuidText_iff cs).symm⟩

end Pattern

/-! ### Exact formats -/

/-- A character of ASCII that ends no line. -/
def AsciiInLine (c : Char) : Prop := c.toNat < 128 ∧ c ≠ '\n'

/-- All characters of these formats lie between `+` and `z`. -/
theorem asciiInLine_of_range (c : Char) (h : 43 ≤ c.toNat ∧ c.toNat ≤ 122) : AsciiInLine c := by
  refine ⟨by omega, ?_⟩
  rintro rfl
  exact absurd h.1 (by decide)

theorem AsciiDigit.inLine (c : Char) (h : AsciiDigit c) : AsciiInLine c := by
  unfold AsciiDigit at h
  exact asciiInLine_of_range c (by omega)

theorem AsciiLetter.inLine (c : Char) (h : AsciiLetter c) : AsciiInLine c := by
  unfold AsciiLetter at h
  exact asciiInLine_of_range c (by omega)

theorem HexDigit.inLine (c : Char) (h : HexDigit c) : AsciiInLine c := by
  unfold HexDigit AsciiDigit at h
  exact asciiInLine_of_range c (by omega)

theorem AsciiLetterOrDigit.inLine (c : Char) (h : AsciiLetterOrDigit c) : AsciiInLine c :=
  h.elim (AsciiLetter.inLine c) (AsciiDigit.inLine c)

theorem NumberText.inLine {cs : List Char} (h : NumberText cs) : ∀ c ∈ cs, AsciiInLine c := by
  obtain ⟨sign, whole, tail, rfl, hsign, ⟨_, hwhole⟩, htail⟩ := h
  have hinSign : ∀ c ∈ sign, AsciiInLine c := by
    rcases hsign with rfl | rfl | rfl
    · exact List.forall_mem_nil _
    · exact List.forall_mem_singleton.mpr (asciiInLine_of_range _ (by decide))
    · exact List.forall_mem_singleton.mpr (asciiInLine_of_range _ (by decide))
  have hinTail : ∀ c ∈ tail, AsciiInLine c := by
    rcases htail with rfl | ⟨fraction, rfl, _, hfraction⟩
    · exact List.forall_mem_nil _
    · exact List.forall_mem_cons.mpr ⟨asciiInLine_of_range _ (by decide),
        fun c hc => AsciiDigit.inLine c (hfraction c hc)⟩
  exact List.forall_mem_append.mpr ⟨hinSign, List.forall_mem_append.mpr
    ⟨fun c hc => AsciiDigit.inLine c (hwhole c hc), hinTail⟩⟩

theorem UuidPlace.inLine (place : Nat) (c : Char) (h : UuidPlace place c) : AsciiInLine c := by
  unfold UuidPlace at h
  split at h
  · rw [h]
    exact asciiInLine_of_range _ (by decide)
  · split at h
    · exact HexDigit.inLine c (UuidVersion.hexDigit c h)
    · split at h
      · exact HexDigit.inLine c (UuidVariant.hexDigit c h)
      · exact HexDigit.inLine c h

theorem UuidText.inLine {cs : List Char} (h : UuidText cs) : ∀ c ∈ cs, AsciiInLine c := by
  intro c hc
  obtain ⟨place, hplace, rfl⟩ := List.mem_iff_getElem.mp hc
  exact UuidPlace.inLine place _ (h.2 place hplace)

/-- Each of these formats accepts the texts of its language and no others, as the search for its
pattern does, and so nothing outside ASCII and no line feed, not even at the end. -/
theorem character_formats_exact (cs : List Char) :
    (Format.isAlpha cs = true ↔ OneOrMore AsciiLetter cs) ∧
    (Format.isAlphanumeric cs = true ↔ OneOrMore AsciiLetterOrDigit cs) ∧
    (Format.isNumeric cs = true ↔ NumberText cs) ∧
    (Format.isUuid cs = true ↔ UuidText cs) ∧
    (∃ p, Pattern.compile Pattern.alphaSource = .ok p ∧ p.isMatch cs = Format.isAlpha cs) ∧
    (∃ p, Pattern.compile Pattern.alphanumericSource = .ok p ∧
      p.isMatch cs = Format.isAlphanumeric cs) ∧
    (∃ p, Pattern.compile Pattern.numericSource = .ok p ∧ p.isMatch cs = Format.isNumeric cs) ∧
    (∃ p, Pattern.compile Pattern.uuidSource = .ok p ∧ p.isMatch cs = Format.isUuid cs) ∧
    ∀ accepts ∈ [Format.isAlpha, Format.isAlphanumeric, Format.isNumeric, Format.isUuid],
      accepts cs = true → ∀ c ∈ cs, AsciiInLine c := by
  have halpha : Format.isAlpha cs = true ↔ OneOrMore AsciiLetter cs :=
    oneOrMore_iff isLetter_iff cs
  have halphanumeric : Format.isAlphanumeric cs = true ↔ OneOrMore AsciiLetterOrDigit cs :=
    oneOrMore_iff isLetterOrDigit_iff cs
  have hnumeric : Format.isNumeric cs = true ↔ NumberText cs :=
    (WrittenNumber.isNumeric_iff cs).trans (numberText_iff cs).symm
  have huuid : Format.isUuid cs = true ↔ UuidText cs := isUuid_iff cs
  refine ⟨halpha, halphanumeric, hnumeric, huuid, ?_, ?_, ?_, ?_, ?_⟩
  · obtain ⟨p, hcompile, hmatch⟩ := Pattern.exists_alpha_pattern
    exact ⟨p, hcompile, Bool.eq_iff_iff.mpr ((hmatch cs).trans halpha.symm)⟩
  · obtain ⟨p, hcompile, hmatch⟩ := Pattern.exists_alphanumeric_pattern
    exact ⟨p, hcompile, Bool.eq_iff_iff.mpr ((hmatch cs).trans halphanumeric.symm)⟩
  · obtain ⟨p, hcompile, hmatch⟩ := Pattern.exists_numeric_pattern
    exact ⟨p, hcompile, Bool.eq_iff_iff.mpr ((hmatch cs).trans hnumeric.symm)⟩
  · obtain ⟨p, hcompile, hmatch⟩ := Pattern.exists_uuid_pattern
    exact ⟨p, hcompile, Bool.eq_iff_iff.mpr ((hmatch cs).trans huuid.symm)⟩
  · simp only [List.forall_mem_cons, List.not_mem_nil, false_imp_iff, implies_true, and_true,
      halpha, halphanumeric, hnumeric, huuid]
    exact ⟨fun h c hc => AsciiLetter.inLine c (h.2 c hc),
      fun h c hc => AsciiLetterOrDigit.inLine c (h.2 c hc), NumberText.inLine, UuidText.inLine⟩

theorem lettered_uuid_accepted :
    let cs := "67e55044-10b1-426F-9247-bb680e5fe0C8".toList
    UuidText cs ∧ ∀ c ∈ cs, AsciiInLine c := by
  intro cs
  obtain ⟨_, _, _, huuid, _, _, _, _, hascii⟩ := character_formats_exact cs
  have haccepted : Format.isUuid cs = true := by decide
  exact ⟨huuid.mp haccepted, hascii Format.isUuid (by simp) haccepted⟩

end Fieldwise
