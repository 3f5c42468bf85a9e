import Fieldwise.Proofs.Due
import Fieldwise.Proofs.Pattern.Whole
import Fieldwise.Proofs.Unicode.CaseOrbits

/-!
# URLs

A URL is a scheme, `://`, a character that may begin a host and characters that are not blank.
The pattern of URLs disregards the case of the scheme, and so takes the long s for the s of
`https`: the scan of a URL does what the search for that pattern does, on every text.
-/

namespace Fieldwise

/-! ### Schemes and authorities -/

/-- Either case of an ASCII letter. -/
def AsciiForm (letter c : Char) : Prop := c = letter ∨ c = letter.toUpper

/-- Either case of an ASCII letter, and the long s for s. -/
def FoldedForm (letter c : Char) : Prop := AsciiForm letter c ∨ letter = 's' ∧ c = '\u017F'

/-- What follows a scheme. -/
def Authority (cs : List Char) : Prop :=
  ∃ first rest, cs = ':' :: '/' :: '/' :: first :: rest ∧ Text.isBlank first = false ∧
    first ∉ ['/', '$', '.', '?', '#'] ∧ ∀ c ∈ rest, Text.isBlank c = false

def urlSchemes : List String := ["http", "https", "ftp"]

/-- A scheme and an authority, the letters of the scheme in some form. -/
def UrlIn (form : Char → Char → Prop) (cs : List Char) : Prop :=
  ∃ scheme ∈ urlSchemes, ∃ word rest, cs = word ++ rest ∧
    List.Forall₂ form scheme.toList word ∧ Authority rest

/-! ### Letters -/

/-- The letters of schemes are lower-case letters, and `k` is not one of them. -/
def IsSchemeLetter (letter : Char) : Prop :=
  97 ≤ letter.toNat ∧ letter.toNat ≤ 122 ∧ letter ≠ 'k'

instance (letter : Char) : Decidable (IsSchemeLetter letter) :=
  inferInstanceAs (Decidable (97 ≤ letter.toNat ∧ letter.toNat ≤ 122 ∧ letter ≠ 'k'))

theorem toNat_toUpper (letter : Char) (h : 97 ≤ letter.toNat ∧ letter.toNat ≤ 122) :
    letter.toUpper.toNat = letter.toNat - 32 := by
  have hrange : 'a'.val ≤ letter.val ∧ letter.val ≤ 'z'.val := h
  have hdistance : ('A'.val - 'a'.val).toNat = 4294967264 := rfl
  have hvalue : letter.toUpper.val = letter.val + ('A'.val - 'a'.val) := by
    delta Char.toUpper
    rw [dif_pos hrange]
  rw [Char.toNat, hvalue, UInt32.toNat_add, hdistance, ← Char.toNat]
  omega

theorem foldedForm_iff (letter c : Char) (h : IsSchemeLetter letter) :
    FoldedForm letter c ↔ Unicode.FormOf letter.toNat c.toNat := by
  obtain ⟨hlow, hhigh, hk⟩ := h
  have hupper := toNat_toUpper letter ⟨hlow, hhigh⟩
  have hk' : letter.toNat ≠ 107 := fun heq => hk (Char.toNat_inj.mp heq)
  have hs : letter = 's' ↔ letter.toNat = 115 := Char.toNat_inj.symm
  have hlong : c = '\u017F' ↔ c.toNat = 383 := Char.toNat_inj.symm
  rw [FoldedForm, AsciiForm, hs, hlong, ← Char.toNat_inj, ← Char.toNat_inj, hupper,
    Unicode.FormOf]
  omega

theorem lowerAscii_eq_iff (letter c : Char) (h : 97 ≤ letter.toNat ∧ letter.toNat ≤ 122) :
    Text.lowerAscii c = letter ↔ AsciiForm letter c := by
  have hupper := toNat_toUpper letter h
  have hcase : 'A' ≤ c ∧ c ≤ 'Z' ↔ 65 ≤ c.toNat ∧ c.toNat ≤ 90 := Iff.rfl
  unfold Text.lowerAscii AsciiForm
  split
  · rename_i hrange
    rw [hcase] at hrange
    have hvalid : (c.toNat + 32).isValidChar := .inl (by omega)
    rw [← Char.toNat_inj, ← Char.toNat_inj, ← Char.toNat_inj, Unicode.toNat_ofNat _ hvalid,
      hupper]
    omega
  · rename_i hrange
    rw [hcase] at hrange
    rw [← Char.toNat_inj, ← Char.toNat_inj, hupper]
    omega

theorem sameLetter_iff (letter c : Char) (h : IsSchemeLetter letter) :
    Format.sameLetter letter c = true ↔ FoldedForm letter c := by
  simp only [Format.sameLetter, Bool.or_eq_true, Bool.and_eq_true, beq_iff_eq,
    lowerAscii_eq_iff letter c ⟨h.1, h.2.1⟩, FoldedForm]

/-! ### The scan -/

theorem dropScheme?_eq_some_iff (scheme cs rest : List Char)
    (h : ∀ letter ∈ scheme, IsSchemeLetter letter) :
    Format.dropScheme? scheme cs = some rest ↔
      ∃ word, cs = word ++ rest ∧ List.Forall₂ FoldedForm scheme word := by
  induction scheme generalizing cs with
  | nil =>
    rw [Format.dropScheme?, Option.some.injEq]
    constructor
    · rintro rfl
      exact ⟨[], rfl, .nil⟩
    · rintro ⟨word, rfl, hnil⟩
      cases hnil
      rfl
  | cons letter scheme ih =>
    have hletter := h letter (List.mem_cons_self ..)
    have hscheme := fun ds => ih ds fun l hl => h l (List.mem_cons_of_mem _ hl)
    cases cs with
    | nil =>
      constructor
      · intro hnone
        cases hnone
      · rintro ⟨word, hsplit, hword⟩
        cases hword
        cases hsplit
    | cons c cs =>
      rw [Format.dropScheme?]
      constructor
      · intro hsome
        split at hsome
        · rename_i hsame
          obtain ⟨word, rfl, hword⟩ := (hscheme cs).mp hsome
          exact ⟨c :: word, rfl, .cons ((sameLetter_iff letter c hletter).mp hsame) hword⟩
        · cases hsome
      · rintro ⟨word, hsplit, hword⟩
        cases hword with
        | cons hform hword =>
          obtain ⟨rfl, rfl⟩ := List.cons.inj hsplit
          rw [if_pos ((sameLetter_iff letter c hletter).mpr hform)]
          exact (hscheme _).mpr ⟨_, rfl, hword⟩

theorem isAuthority_iff (cs : List Char) : Format.isAuthority cs = true ↔ Authority cs := by
  have hparts : ∀ first rest, Format.isAuthority (':' :: '/' :: '/' :: first :: rest) = true ↔
      Text.isBlank first = false ∧ first ∉ ['/', '$', '.', '?', '#'] ∧
        ∀ c ∈ rest, Text.isBlank c = false := by
    intro first rest
    simp only [Format.isAuthority, Bool.and_eq_true, Bool.not_eq_true', List.all_eq_true,
      ← Bool.not_eq_true, List.contains_iff_mem, and_assoc]
  constructor
  · intro h
    have hshape : ∃ first rest, cs = ':' :: '/' :: '/' :: first :: rest := by
      unfold Format.isAuthority at h
      split at h
      · exact ⟨_, _, rfl⟩
      · cases h
    obtain ⟨first, rest, rfl⟩ := hshape
    exact ⟨first, rest, rfl, (hparts first rest).mp h⟩
  · rintro ⟨first, rest, rfl, hauthority⟩
    exact (hparts first rest).mpr hauthority

/-- The letters of the schemes are such letters. -/
theorem isSchemeLetter_of_mem (scheme : String) (h : scheme ∈ urlSchemes) :
    ∀ letter ∈ scheme.toList, IsSchemeLetter letter := by
  have hall : urlSchemes.all
      (fun scheme => scheme.toList.all fun letter => IsSchemeLetter letter) = true := by
    decide
  intro letter hletter
  exact of_decide_eq_true (List.all_eq_true.mp (List.all_eq_true.mp hall scheme h) letter hletter)

theorem isUrl_iff (cs : List Char) : Format.isUrl cs = true ↔ UrlIn FoldedForm cs := by
  have hscheme : ∀ scheme ∈ urlSchemes,
      ((Format.dropScheme? scheme.toList cs).map Format.isAuthority).getD false = true ↔
        ∃ word rest, cs = word ++ rest ∧ List.Forall₂ FoldedForm scheme.toList word ∧
          Authority rest := by
    intro scheme hmem
    have hdrop := fun rest => dropScheme?_eq_some_iff scheme.toList cs rest
      (isSchemeLetter_of_mem scheme hmem)
    constructor
    · intro h
      cases hrest : Format.dropScheme? scheme.toList cs with
      | none =>
        rw [hrest] at h
        cases h
      | some rest =>
        rw [hrest] at h
        obtain ⟨word, hsplit, hword⟩ := (hdrop rest).mp hrest
        exact ⟨word, rest, hsplit, hword, (isAuthority_iff rest).mp h⟩
    · rintro ⟨word, rest, hsplit, hword, hauthority⟩
      rw [(hdrop rest).mpr ⟨word, hsplit, hword⟩]
      exact (isAuthority_iff rest).mpr hauthority
  simp only [Format.isUrl, List.any_eq_true]
  constructor
  · rintro ⟨scheme, hmem, h⟩
    have hmem' : scheme ∈ urlSchemes := by
      simp only [urlSchemes, List.mem_cons, List.not_mem_nil, or_false] at hmem ⊢
      tauto
    exact ⟨scheme, hmem', (hscheme scheme hmem').mp h⟩
  · rintro ⟨scheme, hmem, h⟩
    have hmem' : scheme ∈ ["https", "http", "ftp"] := by
      simp only [urlSchemes, List.mem_cons, List.not_mem_nil, or_false] at hmem ⊢
      tauto
    exact ⟨scheme, hmem', (hscheme scheme hmem).mpr h⟩

/-! ### The pattern -/

namespace Pattern

def urlSource : String := "^(?i:https?|ftp)://[^\\s/$.?#][^\\s]*$"

/-- A letter without regard to case. -/
def foldedLetter (letter : Char) : CharSet :=
  Mode.fold ⟨true, false, false, true, false⟩ (· == letter)

def notBlank : CharSet := complementIf true (complementIf false Text.isBlank)

/-- A character that may begin a host. -/
def hostStart : CharSet :=
  complementIf true fun c => complementIf false Text.isBlank c || (c == '/' || (c == '$' ||
    (c == '.' || (c == '?' || (c == '#' || false)))))

def schemeRegex : Regex :=
  .alt
    (.wordThen (['h', 't', 't', 'p'].map foldedLetter)
      (.seq ((Regex.ofSet (foldedLetter 's')).repeated 0 (some 1)) .empty))
    (.alt (.wordThen (['f', 't', 'p'].map foldedLetter) .empty) .nothing)

def authorityRegex : Regex :=
  .wordThen [(· == ':'), (· == '/'), (· == '/'), hostStart]
    (.seq ((Regex.ofSet notBlank).repeated 0 none)
      (.seq (.test (Assertion.lineEnd.holds {})) .empty))

def urlRegex : Regex :=
  .seq (.test (Assertion.lineStart.holds {})) (.seq schemeRegex authorityRegex)

theorem meaning_urlSource : meaning urlSource = .ok urlRegex := by rfl

theorem foldedLetter_iff (letter c : Char) (h : IsSchemeLetter letter) :
    foldedLetter letter c = true ↔ FoldedForm letter c := by
  have hany : foldedLetter letter c = (Unicode.caseOrbit c).any (· == letter) := rfl
  rw [hany, foldedForm_iff letter c h, ← Unicode.mem_caseOrbit_iff letter c ⟨h.1, h.2.1⟩]
  simp only [List.any_eq_true, beq_iff_eq, exists_eq_right]

theorem foldedLetters_iff (letters word : List Char)
    (h : ∀ letter ∈ letters, IsSchemeLetter letter) :
    List.Forall₂ (fun set c => set c = true) (letters.map foldedLetter) word ↔
      List.Forall₂ FoldedForm letters word := by
  rw [List.forall₂_map_left_iff]
  induction letters generalizing word with
  | nil =>
    constructor
    · intro hnil
      cases hnil
      exact .nil
    · intro hnil
      cases hnil
      exact .nil
  | cons letter letters ih =>
    have hletter := fun c => foldedLetter_iff letter c (h letter (List.mem_cons_self ..))
    have hletters := fun ds => ih ds fun l hl => h l (List.mem_cons_of_mem _ hl)
    constructor
    · intro hword
      cases hword with
      | cons hform hrest => exact .cons ((hletter _).mp hform) ((hletters _).mp hrest)
    · intro hword
      cases hword with
      | cons hform hrest => exact .cons ((hletter _).mpr hform) ((hletters _).mpr hrest)

/-- A word that is one of the schemes, its letters in some form. -/
def SchemeWord (word : List Char) : Prop :=
  ∃ scheme ∈ urlSchemes, List.Forall₂ FoldedForm scheme.toList word

theorem describes_schemeRegex : schemeRegex.Describes SchemeWord := by
  intro before word after
  have hletters := isSchemeLetter_of_mem
  have hhttp := fun u => foldedLetters_iff "http".toList u (hletters "http" (by decide))
  have hftp := fun u => foldedLetters_iff "ftp".toList u (hletters "ftp" (by decide))
  have hs := fun c => foldedLetter_iff 's' c (hletters "https" (by decide) 's' (by decide))
  have hoptional : ∀ before cs after, (Regex.seq ((Regex.ofSet (foldedLetter 's')).repeated 0
      (some 1)) .empty).Matches before cs after ↔
        cs = [] ∨ ∃ c, cs = [c] ∧ foldedLetter 's' c = true := fun before cs after =>
    (Regex.matches_seq_empty_iff ..).trans
      ((Regex.describes_ofSet (foldedLetter 's')).optional before cs after)
  constructor
  · rintro (h | h | h)
    · obtain ⟨u, rest, rfl, hu, hrest⟩ := (Regex.matches_wordThen_iff ..).mp h
      have hu' := (hhttp u).mp hu
      rcases (hoptional ..).mp hrest with rfl | ⟨c, rfl, hc⟩
      · refine ⟨"http", by decide, ?_⟩
        rw [List.append_nil]
        exact hu'
      · have hlast : List.Forall₂ FoldedForm ['s'] [c] := .cons ((hs c).mp hc) .nil
        exact ⟨"https", by decide, List.rel_append hu' hlast⟩
    · obtain ⟨u, rest, rfl, hu, rfl⟩ := (Regex.matches_wordThen_iff ..).mp h
      refine ⟨"ftp", by decide, ?_⟩
      rw [List.append_nil]
      exact (hftp u).mp hu
    · exact h.elim
  · rintro ⟨scheme, hmem, hword⟩
    simp only [urlSchemes, List.mem_cons, List.not_mem_nil, or_false] at hmem
    rcases hmem with rfl | rfl | rfl
    · left
      apply (Regex.matches_wordThen_iff ..).mpr
      exact ⟨word, [], (List.append_nil word).symm, (hhttp word).mpr hword,
        (hoptional ..).mpr (.inl rfl)⟩
    · left
      apply (Regex.matches_wordThen_iff ..).mpr
      have hstart : List.Forall₂ FoldedForm "http".toList (word.take 4) :=
        List.forall₂_take 4 hword
      have hend : List.Forall₂ FoldedForm ['s'] (word.drop 4) := List.forall₂_drop 4 hword
      obtain ⟨c, cs, hc, hnil, hdrop⟩ := List.forall₂_cons_left_iff.mp hend
      cases hnil
      refine ⟨word.take 4, word.drop 4, (List.take_append_drop 4 word).symm,
        (hhttp _).mpr hstart, ?_⟩
      rw [hdrop]
      exact (hoptional ..).mpr (.inr ⟨c, rfl, (hs c).mpr hc⟩)
    · right
      left
      apply (Regex.matches_wordThen_iff ..).mpr
      exact ⟨word, [], (List.append_nil word).symm, (hftp word).mpr hword, rfl⟩

theorem notBlank_iff (c : Char) : notBlank c = true ↔ Text.isBlank c = false := by
  simp only [notBlank, complementIf]
  cases Text.isBlank c <;> decide

theorem hostStart_iff (c : Char) :
    hostStart c = true ↔ Text.isBlank c = false ∧ c ∉ ['/', '$', '.', '?', '#'] := by
  simp only [hostStart, complementIf, List.mem_cons, List.not_mem_nil]
  cases Text.isBlank c <;> simp

/-- The parts of a URL, one after another. -/
def urlParts : List (List Char → Prop) :=
  [SchemeWord, Exactly 1 (· = ':'), Exactly 1 (· = '/'), Exactly 1 (· = '/'),
    Exactly 1 fun c => Text.isBlank c = false ∧ c ∉ ['/', '$', '.', '?', '#'],
    fun cs => ∀ c ∈ cs, Text.isBlank c = false]

theorem inTurn_urlParts_iff (cs : List Char) : InTurn urlParts cs ↔ UrlIn FoldedForm cs := by
  constructor
  · rintro ⟨word, _, rfl, ⟨scheme, hmem, hword⟩, hcolon⟩
    obtain ⟨_, rfl, hslashes⟩ := (inTurn_char_iff ..).mp hcolon
    obtain ⟨_, rfl, hslash⟩ := (inTurn_char_iff ..).mp hslashes
    obtain ⟨_, rfl, _, rest, rfl, hfirst, hblank⟩ := (inTurn_char_iff ..).mp hslash
    obtain ⟨first, rfl, hhost⟩ := (exactly_one_iff ..).mp hfirst
    exact ⟨scheme, hmem, word, _, rfl, hword, first, rest, rfl, hhost.1, hhost.2,
      (inTurn_last_iff ..).mp hblank⟩
  · rintro ⟨scheme, hmem, word, _, rfl, hword, first, rest, rfl, hblank, hhost, hrest⟩
    refine ⟨word, _, rfl, ⟨scheme, hmem, hword⟩, ?_⟩
    refine (inTurn_char_iff ..).mpr ⟨_, rfl, (inTurn_char_iff ..).mpr ⟨_, rfl, ?_⟩⟩
    exact (inTurn_char_iff ..).mpr ⟨_, rfl, [first], rest, rfl,
      (exactly_one_iff ..).mpr ⟨first, rfl, hblank, hhost⟩, (inTurn_last_iff ..).mpr hrest⟩

/-- The search for the pattern of URLs finds nothing less than a whole URL. -/
theorem isMatch_of_urlSource (p : Pattern) (h : p.source = urlSource) (cs : List Char) :
    p.isMatch cs = true ↔ UrlIn FoldedForm cs := by
  have hmeaning : meaning p.source = .ok (.whole [schemeRegex, .ofSet (· == ':'),
      .ofSet (· == '/'), .ofSet (· == '/'), .ofSet hostStart,
      (Regex.ofSet notBlank).repeated 0 none]) := h ▸ meaning_urlSource
  have hchar : ∀ c, (Regex.ofSet (· == c)).Describes (Exactly 1 (· = c)) :=
    fun c => Regex.describes_one fun _ => beq_iff_eq
  have hparts := isMatch_whole_iff (.cons describes_schemeRegex (.cons (hchar ':')
    (.cons (hchar '/') (.cons (hchar '/') (.cons (Regex.describes_one hostStart_iff)
      (.cons (Regex.describes_anyNumber notBlank_iff) .nil)))))) p hmeaning cs
  exact hparts.trans (inTurn_urlParts_iff cs)

end Pattern

/-! ### Schemes in ASCII -/

theorem UrlIn.imp {form form' : Char → Char → Prop} (h : ∀ letter c, form letter c → form' letter c)
    {cs : List Char} (hurl : UrlIn form cs) : UrlIn form' cs := by
  obtain ⟨scheme, hmem, word, rest, hsplit, hword, hauthority⟩ := hurl
  exact ⟨scheme, hmem, word, rest, hsplit, hword.imp h, hauthority⟩

/-- Without the long s, the forms of letters are in ASCII. -/
theorem forall₂_asciiForm (letters word : List Char) (h : List.Forall₂ FoldedForm letters word)
    (hs : 's' ∈ letters → '\u017F' ∉ word) : List.Forall₂ AsciiForm letters word := by
  induction h with
  | nil => exact .nil
  | cons hform _ ih =>
    have hrest := ih fun hletters hmem =>
      hs (List.mem_cons_of_mem _ hletters) (List.mem_cons_of_mem _ hmem)
    rcases hform with hascii | ⟨rfl, rfl⟩
    · exact .cons hascii hrest
    · exact absurd (List.mem_cons_self ..) (hs (List.mem_cons_self ..))

/-- Only the s of `https` has a form outside ASCII. -/
theorem UrlIn.asciiForm {cs : List Char} (h : UrlIn FoldedForm cs)
    (hs : cs[4]? ≠ some '\u017F') : UrlIn AsciiForm cs := by
  obtain ⟨scheme, hmem, word, rest, rfl, hword, hauthority⟩ := h
  refine ⟨scheme, hmem, word, rest, rfl, ?_, hauthority⟩
  simp only [urlSchemes, List.mem_cons, List.not_mem_nil, or_false] at hmem
  rcases hmem with rfl | rfl | rfl
  · exact forall₂_asciiForm _ _ hword fun hletters => absurd hletters (by decide)
  · have hlength : word.length = 5 := hword.length_eq.symm
    have hstart : List.Forall₂ AsciiForm "http".toList (word.take 4) :=
      forall₂_asciiForm _ _ (List.forall₂_take 4 hword) fun hletters =>
        absurd hletters (by decide)
    have hlast : List.Forall₂ AsciiForm ['s'] (word.drop 4) := by
      apply forall₂_asciiForm _ _ (List.forall₂_drop 4 hword)
      intro _ hlong
      obtain ⟨i, hi, hget⟩ := List.mem_iff_getElem.mp hlong
      have hplace : i = 0 := by
        rw [List.length_drop] at hi
        omega
      subst hplace
      rw [List.getElem_drop] at hget
      apply hs
      rw [List.getElem?_append_left (by omega), List.getElem?_eq_getElem (by omega)]
      exact congrArg some hget
    have hjoined : List.Forall₂ AsciiForm ("http".toList ++ ['s'])
        (word.take 4 ++ word.drop 4) := List.rel_append hstart hlast
    rw [List.take_append_drop] at hjoined
    exact hjoined
  · exact forall₂_asciiForm _ _ hword fun hletters => absurd hletters (by decide)

/-- In ASCII the fifth character belongs to the scheme, or to what follows it. -/
theorem UrlIn.fifth_ne_long_s {cs : List Char} (h : UrlIn AsciiForm cs) :
    cs[4]? ≠ some '\u017F' := by
  obtain ⟨scheme, hmem, word, rest, rfl, hword, first, others, rfl, _⟩ := h
  have hlength := hword.length_eq
  simp only [urlSchemes, List.mem_cons, List.not_mem_nil, or_false] at hmem
  rcases hmem with rfl | rfl | rfl
  · have hcolon : word.length = 4 := hlength.symm
    have hget : (word ++ ':' :: '/' :: '/' :: first :: others)[4]? = some ':' := by
      rw [List.getElem?_append_right (by omega), hcolon]
      rfl
    rw [hget]
    decide
  · have hlast : List.Forall₂ AsciiForm ['s'] (word.drop 4) := List.forall₂_drop 4 hword
    obtain ⟨c, _, hc, hnil, hdrop⟩ := List.forall₂_cons_left_iff.mp hlast
    cases hnil
    have hfive : word.length = 5 := hlength.symm
    have hget : word[4]? = some c := by
      have hfirst := congrArg (·[0]?) hdrop
      simp only [List.getElem?_drop] at hfirst
      exact hfirst
    have hascii : c ≠ '\u017F' := by
      rintro rfl
      rcases hc with hlower | hupper
      · exact absurd hlower (by decide)
      · exact absurd hupper (by decide)
    rw [List.getElem?_append_left (by omega), hget]
    exact fun heq => hascii (Option.some.inj heq)
  · have hslash : word.length = 3 := hlength.symm
    have hget : (word ++ ':' :: '/' :: '/' :: first :: others)[4]? = some '/' := by
      rw [List.getElem?_append_right (by omega), hslash]
      rfl
    rw [hget]
    decide

/-- A text is a URL if it begins with a scheme, its letters in either case, and an authority
follows up to the end; the s of `https` may also be a long s, and nothing else may differ. This
is what the search for the pattern of URLs finds, and what the constraint asks. -/
theorem url_scheme_folds_case (cs : List Char) :
    (Format.isUrl cs = true ↔ UrlIn FoldedForm cs) ∧
    ((Format.isUrl cs = true ↔ UrlIn AsciiForm cs) ↔
      ¬(cs[4]? = some '\u017F' ∧ UrlIn FoldedForm cs)) ∧
    (∃ p, Pattern.compile Pattern.urlSource = .ok p ∧ p.isMatch cs = Format.isUrl cs) ∧
    ∀ (v : Value) (options : Options) (field : String) (override : Option String),
      v.chars = cs → v.isEmpty = false →
      (Constraints.check options field [⟨.url, override⟩] (some v)).value =
        if Format.isUrl cs = true then []
        else [⟨field, override.getD "Must be a valid URL", "url"⟩] := by
  refine ⟨isUrl_iff cs, ?_, ?_, ?_⟩
  · rw [isUrl_iff]
    constructor
    · rintro hascii ⟨hlong, hurl⟩
      exact (hascii.mp hurl).fifth_ne_long_s hlong
    · intro hnot
      constructor
      · intro hurl
        exact hurl.asciiForm fun hlong => hnot ⟨hlong, hurl⟩
      · intro hurl
        exact hurl.imp fun _ _ => .inl
  · let p : Pattern := ⟨Pattern.urlSource, Pattern.urlRegex, Pattern.meaning_urlSource⟩
    have hcompile : Pattern.compile p.source = .ok p := Pattern.compile_source p
    refine ⟨p, hcompile, ?_⟩
    rw [Bool.eq_iff_iff, isUrl_iff]
    exact Pattern.isMatch_of_urlSource p rfl cs
  · rintro v options field override rfl hv
    exact Constraints.value_check_alone options field .url override v hv not_false

theorem mixed_case_url_accepted :
    let v : Value := .text "HtTpS://[::1]/a?b#c"
    UrlIn AsciiForm v.chars ∧
      (Constraints.check {} "site" [⟨.url, none⟩] (some v)).value = [] := by
  intro v
  have hscheme : List.Forall₂ AsciiForm "https".toList ['H', 't', 'T', 'p', 'S'] := by
    have hend : List.Forall₂ AsciiForm ['p', 's'] ['p', 'S'] :=
      .cons (.inl rfl) (.cons (.inr rfl) .nil)
    exact .cons (.inr rfl) (.cons (.inl rfl) (.cons (.inr rfl) hend))
  have hauthority : Authority "://[::1]/a?b#c".toList := (isAuthority_iff _).mp (by decide)
  have hurl : UrlIn AsciiForm v.chars := ⟨"https", by decide, _, _, rfl, hscheme, hauthority⟩
  have hfolds := url_scheme_folds_case v.chars
  have haccepted : Format.isUrl v.chars = true := hfolds.1.mpr (hurl.imp fun _ _ => .inl)
  refine ⟨hurl, ?_⟩
  rw [hfolds.2.2.2 v {} "site" none rfl rfl, if_pos haccepted]

/-- The long s passes for the s of `https`. -/
theorem long_s_url_accepted : ¬∀ cs, Format.isUrl cs = true ↔ UrlIn AsciiForm cs := by
  intro hascii
  have haccepted : Format.isUrl "http\u017F://example.com".toList = true := by decide
  have hurl := (hascii _).mp haccepted
  exact hurl.fifth_ne_long_s rfl

end Fieldwise
