import Fieldwise.Proofs.CharacterFormats
import Fieldwise.Proofs.Trimming
import Mathlib.Data.List.DropRight

/-!
# Email addresses

An email address is a name, an at sign, a host, a point and a top domain. Points may also stand in
the host, so a text may be cut at several of them, but the top domain has only letters: if there is
a cut at all, it is at the last point. The scan cuts there and accepts what the search for the
pattern finds by trying every cut.
-/

namespace Fieldwise

open Pattern (Counted Exactly OneOrMore)

/-! ### Parts -/

/-- A character of the part before the at sign. -/
def LocalChar (c : Char) : Prop := AsciiLetterOrDigit c ∨ c ∈ ['.', '_', '%', '+', '-']

def DomainChar (c : Char) : Prop := AsciiLetterOrDigit c ∨ c ∈ ['.', '-']

/-- What may stand before the at sign, after it, and after a point at the end. -/
structure EmailParts (name host top : List Char) : Prop where
  name : OneOrMore LocalChar name
  host : OneOrMore DomainChar host
  top_length : 2 ≤ top.length
  top_letters : ∀ c ∈ top, AsciiLetter c

def EmailText (cs : List Char) : Prop :=
  ∃ name host top, cs = name ++ '@' :: (host ++ '.' :: top) ∧ EmailParts name host top

theorem isLocalChar_iff (c : Char) : Format.isLocalChar c = true ↔ LocalChar c := by
  simp only [Format.isLocalChar, LocalChar, Bool.or_eq_true, isLetterOrDigit_iff, beq_iff_eq,
    List.mem_cons, List.not_mem_nil, or_false, or_assoc]

theorem isDomainChar_iff (c : Char) : Format.isDomainChar c = true ↔ DomainChar c := by
  simp only [Format.isDomainChar, DomainChar, Bool.or_eq_true, isLetterOrDigit_iff, beq_iff_eq,
    List.mem_cons, List.not_mem_nil, or_false, or_assoc]

theorem not_localChar_at : ¬LocalChar '@' := by
  rw [← isLocalChar_iff]
  decide

theorem not_domainChar_at : ¬DomainChar '@' := by
  rw [← isDomainChar_iff]
  decide

theorem not_asciiLetter_at : ¬AsciiLetter '@' := by
  rw [← isLetter_iff]
  decide

theorem not_asciiLetter_point : ¬AsciiLetter '.' := by
  rw [← isLetter_iff]
  decide

namespace EmailParts

variable {name host top : List Char}

theorem at_notMem_name (h : EmailParts name host top) : '@' ∉ name :=
  fun hmem => not_localChar_at (h.name.2 _ hmem)

theorem at_notMem_domain (h : EmailParts name host top) : '@' ∉ host ++ '.' :: top := by
  intro hmem
  rcases List.mem_append.mp hmem with hhost | hrest
  · exact not_domainChar_at (h.host.2 _ hhost)
  · rcases List.mem_cons.mp hrest with hpoint | htop
    · exact absurd hpoint (by decide)
    · exact not_asciiLetter_at (h.top_letters _ htop)

theorem point_notMem_top (h : EmailParts name host top) : '.' ∉ top :=
  fun hmem => not_asciiLetter_point (h.top_letters _ hmem)

end EmailParts

/-! ### The last point -/

theorem reverse_append_point (host top : List Char) :
    (host ++ '.' :: top).reverse = top.reverse ++ '.' :: host.reverse := by
  simp

theorem exists_last_point {cs : List Char} (h : '.' ∈ cs) :
    ∃ host top, cs = host ++ '.' :: top ∧ '.' ∉ top := by
  obtain ⟨front, back, hreverse, hfront⟩ :=
    List.eq_append_cons_of_mem (List.mem_reverse.mpr h)
  refine ⟨back.reverse, front.reverse, ?_, fun hmem => hfront (List.mem_reverse.mp hmem)⟩
  rw [← List.reverse_reverse cs, hreverse]
  simp

section

variable {host top : List Char} (h : '.' ∉ top)

include h

theorem ne_point_of_mem_reverse : ∀ c ∈ top.reverse, (c != '.') = true := by
  intro c hc
  rw [bne_iff_ne]
  intro hpoint
  exact h (hpoint ▸ List.mem_reverse.mp hc)

theorem takeWhile_reverse_append_point :
    ((host ++ '.' :: top).reverse.takeWhile (· != '.')).reverse = top := by
  rw [reverse_append_point, List.takeWhile_append_of_pos (ne_point_of_mem_reverse h),
    List.takeWhile_cons_of_neg (by decide), List.append_nil, List.reverse_reverse]

theorem dropWhile_reverse_append_point :
    ((host ++ '.' :: top).reverse.dropWhile (· != '.')).drop 1 = host.reverse := by
  rw [reverse_append_point, List.dropWhile_append_of_pos (ne_point_of_mem_reverse h),
    List.dropWhile_cons_of_neg (by decide), List.drop_one, List.tail_cons]

theorem dropWhile_reverse_eq_nil : top.reverse.dropWhile (· != '.') = [] :=
  List.dropWhile_eq_nil_iff.mpr (ne_point_of_mem_reverse h)

end

theorem scan_iff (name host top : List Char) :
    (name != [] && name.all Format.isLocalChar && host.reverse != [] &&
        host.reverse.all Format.isDomainChar && decide (2 ≤ top.length) &&
        top.all Format.isLetter) = true ↔ EmailParts name host top := by
  simp only [Bool.and_eq_true, bne_iff_ne, decide_eq_true_eq, List.all_eq_true, isLocalChar_iff,
    isDomainChar_iff, isLetter_iff, List.mem_reverse, List.reverse_ne_nil_iff]
  constructor
  · intro ⟨⟨⟨⟨⟨hname, hlocal⟩, hhost⟩, hdomain⟩, hlength⟩, hletters⟩
    exact ⟨⟨hname, hlocal⟩, ⟨hhost, hdomain⟩, hlength, hletters⟩
  · intro ⟨⟨hname, hlocal⟩, ⟨hhost, hdomain⟩, hlength, hletters⟩
    exact ⟨⟨⟨⟨⟨hname, hlocal⟩, hhost⟩, hdomain⟩, hlength⟩, hletters⟩

theorem isEmail_iff (cs : List Char) : Format.isEmail cs = true ↔ EmailText cs := by
  constructor
  · intro h
    unfold Format.isEmail at h
    split at h
    · cases h
    · rename_i name domain hcut
      have htext : cs = name ++ '@' :: domain := Text.eq_of_cutAt _ _ _ _ hcut
      by_cases hpoint : '.' ∈ domain
      · obtain ⟨host, top, rfl, hlast⟩ := exists_last_point hpoint
        rw [takeWhile_reverse_append_point hlast, dropWhile_reverse_append_point hlast] at h
        exact ⟨name, host, top, htext, (scan_iff name host top).mp h⟩
      · -- Without a point nothing is left of the domain for a host.
        simp [dropWhile_reverse_eq_nil hpoint] at h
  · intro ⟨name, host, top, htext, hparts⟩
    have hcut : Text.cutAt '@' cs = some (name, host ++ '.' :: top) :=
      htext ▸ Text.cutAt_append_cons '@' name _ hparts.at_notMem_name
    have hlast := hparts.point_notMem_top
    unfold Format.isEmail
    rw [hcut]
    show (name != [] && name.all Format.isLocalChar && _ != [] && _ && _ && _) = true
    rw [takeWhile_reverse_append_point hlast, dropWhile_reverse_append_point hlast]
    exact (scan_iff name host top).mpr hparts

/-! ### The pattern -/

namespace Pattern

def emailSource : String :=
  "^[a-zA-Z0-9._%+\\-]+@[a-zA-Z0-9.\\-]+\\.[a-zA-Z]\x7b2,\x7d$"

def localSet : CharSet :=
  complementIf false fun c =>
    ('a' ≤ c && c ≤ 'z') || (('A' ≤ c && c ≤ 'Z') || (('0' ≤ c && c ≤ '9') ||
      (c == '.' || (c == '_' || (c == '%' || (c == '+' || (c == '-' || false)))))))

def domainSet : CharSet :=
  complementIf false fun c =>
    ('a' ≤ c && c ≤ 'z') || (('A' ≤ c && c ≤ 'Z') || (('0' ≤ c && c ≤ '9') ||
      (c == '.' || (c == '-' || false))))

theorem localSet_iff (c : Char) : localSet c = true ↔ LocalChar c := by
  rw [← isLocalChar_iff, localSet, complementIf_false]
  simp only [Format.isLocalChar, Format.isLetterOrDigit, Format.isLetter, Char.isDigit,
    Bool.or_eq_true, Bool.or_assoc, Bool.or_false]
  exact Iff.rfl

theorem domainSet_iff (c : Char) : domainSet c = true ↔ DomainChar c := by
  rw [← isDomainChar_iff, domainSet, complementIf_false]
  simp only [Format.isDomainChar, Format.isLetterOrDigit, Format.isLetter, Char.isDigit,
    Bool.or_eq_true, Bool.or_assoc, Bool.or_false]
  exact Iff.rfl

theorem counted_letterSet_iff (cs : List Char) :
    Counted letterSet 2 none cs ↔ 2 ≤ cs.length ∧ ∀ c ∈ cs, AsciiLetter c := by
  simp [Counted, letterSet_iff]

theorem exists_email_pattern :
    ∃ p, compile emailSource = .ok p ∧ ∀ cs, p.isMatch cs = true ↔ EmailText cs := by
  have hmeaning : meaning emailSource = .ok (.whole
      [(Regex.ofSet localSet).repeated 1 none, .ofSet (· == '@'),
        (Regex.ofSet domainSet).repeated 1 none, .ofSet (· == '.'),
        (Regex.ofSet letterSet).repeated 2 none]) := rfl
  have hat : (Regex.ofSet (· == '@')).Describes (Exactly 1 (· = '@')) :=
    Regex.describes_one fun _ => beq_iff_eq
  have hpoint : (Regex.ofSet (· == '.')).Describes (Exactly 1 (· = '.')) :=
    Regex.describes_one fun _ => beq_iff_eq
  obtain ⟨p, hcompile, hmatch⟩ := exists_compile_whole hmeaning
    (.cons (Regex.describes_oneOrMore localSet_iff) (.cons hat
      (.cons (Regex.describes_oneOrMore domainSet_iff) (.cons hpoint
        (.cons (Regex.describes_repeated letterSet 2 none) .nil)))))
  refine ⟨p, hcompile, fun cs => (hmatch cs).trans ?_⟩
  constructor
  · intro ⟨name, _, htext, hname, hdomain⟩
    obtain ⟨_, rfl, host, _, rfl, hhost, hrest⟩ := (inTurn_char_iff ..).mp hdomain
    obtain ⟨top, rfl, htop⟩ := (inTurn_char_iff ..).mp hrest
    obtain ⟨hlength, hletters⟩ := (counted_letterSet_iff top).mp ((inTurn_last_iff ..).mp htop)
    exact ⟨name, host, top, htext, hname, hhost, hlength, hletters⟩
  · intro ⟨name, host, top, htext, hname, hhost, hlength, hletters⟩
    have htop := (inTurn_last_iff ..).mpr ((counted_letterSet_iff top).mpr ⟨hlength, hletters⟩)
    exact ⟨name, _, htext, hname, (inTurn_char_iff ..).mpr
      ⟨_, rfl, host, _, rfl, hhost, (inTurn_char_iff ..).mpr ⟨top, rfl, htop⟩⟩⟩

end Pattern

/-! ### Addresses -/

/-- A text is an email address if there is a way to cut it into a name, a host and a top domain.
There is one at sign then, and the top domain is all that follows the last point, however the text
is cut. The search for the pattern finds the same texts. -/
theorem email_is_name_host_top (cs : List Char) :
    (Format.isEmail cs = true ↔
      ∃ name host top, cs = name ++ '@' :: (host ++ '.' :: top) ∧ EmailParts name host top) ∧
    (∃ p, Pattern.compile Pattern.emailSource = .ok p ∧ p.isMatch cs = Format.isEmail cs) ∧
    ∀ name host top, cs = name ++ '@' :: (host ++ '.' :: top) → EmailParts name host top →
      cs.count '@' = 1 ∧ top = cs.rtakeWhile (· != '.') := by
  refine ⟨isEmail_iff cs, ?_, ?_⟩
  · obtain ⟨p, hcompile, hmatch⟩ := Pattern.exists_email_pattern
    exact ⟨p, hcompile, Bool.eq_iff_iff.mpr ((hmatch cs).trans (isEmail_iff cs).symm)⟩
  · intro name host top htext hparts
    have hname : name.count '@' = 0 := List.count_eq_zero.mpr hparts.at_notMem_name
    have hdomain : (host ++ '.' :: top).count '@' = 0 :=
      List.count_eq_zero.mpr hparts.at_notMem_domain
    have hlast : cs = (name ++ '@' :: host) ++ '.' :: top := by simp [htext]
    constructor
    · rw [htext, List.count_append, List.count_cons_self, hname, hdomain]
    · rw [hlast]
      exact (takeWhile_reverse_append_point hparts.point_notMem_top).symm

/-- A host with a point of its own. -/
theorem pointed_host_accepted :
    let cs := "first.last+tag@mail.example.org".toList
    ∃ name host, cs = name ++ '@' :: (host ++ '.' :: "org".toList) ∧
      EmailParts name host "org".toList := by
  intro cs
  obtain ⟨haccepts, _, hcuts⟩ := email_is_name_host_top cs
  have haccepted : Format.isEmail cs = true := by decide
  have hlast : cs.rtakeWhile (· != '.') = "org".toList := by decide
  obtain ⟨name, host, top, htext, hparts⟩ := haccepts.mp haccepted
  obtain ⟨_, htop⟩ := hcuts name host top htext hparts
  rw [htop, hlast] at hparts htext
  exact ⟨name, host, htext, hparts⟩

end Fieldwise
