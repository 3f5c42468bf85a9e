import Fieldwise.Pattern.Basic
import Mathlib.Tactic.Tauto

/-!
# The texts that an expression describes

An expression describes texts, each between the characters that stand before and after it. The
search of a text keeps this invariant: a mark can leave the expression through the texts that lead
from its set to the end. So what is found in a text is a part that the expression describes.
-/

namespace Fieldwise.Pattern

/-! ### Texts between neighbours -/

/-- Texts, each between the characters before and after it. -/
abbrev Language := Option Char → List Char → Option Char → Prop

/-- What stands before the end of a text. -/
def behind (before : Option Char) (cs : List Char) : Option Char := cs.getLast?.or before

/-- What stands after the beginning of a text. -/
def ahead (cs : List Char) (after : Option Char) : Option Char := cs.head?.or after

theorem behind_cons (before : Option Char) (c : Char) (cs : List Char) :
    behind before (c :: cs) = behind (some c) cs := by
  cases cs with
  | nil => rfl
  | cons d ds => simp [behind, List.getLast?_cons]

/-- A text of the one language with a text of the other after it. -/
def Joined (p q : Language) : Language := fun before cs after =>
  ∃ xs ys, cs = xs ++ ys ∧ p before xs (ahead ys after) ∧ q (behind before xs) ys after

/-- Any number of texts of a language, one after another. -/
inductive Repeated (p : Language) : Language
  | done (before after : Option Char) : Repeated p before [] after
  | again (before after : Option Char) (xs ys : List Char) (h : p before xs (ahead ys after))
      (rest : Repeated p (behind before xs) ys after) : Repeated p before (xs ++ ys) after

theorem joined_nil_iff (p q : Language) (before after : Option Char) :
    Joined p q before [] after ↔ p before [] after ∧ q before [] after := by
  constructor
  · rintro ⟨xs, ys, hsplit, hp, hq⟩
    obtain ⟨rfl, rfl⟩ := List.nil_eq_append_iff.mp hsplit
    exact ⟨hp, hq⟩
  · rintro ⟨hp, hq⟩
    exact ⟨[], [], rfl, hp, hq⟩

/-- The first character of a joined text belongs to the second part or to the first. -/
theorem joined_cons_iff (p q : Language) (before after : Option Char) (c : Char)
    (cs : List Char) :
    Joined p q before (c :: cs) after ↔
      (p before [] (some c) ∧ q before (c :: cs) after) ∨
        Joined (fun _ xs => p before (c :: xs)) q (some c) cs after := by
  constructor
  · rintro ⟨xs, ys, hsplit, hp, hq⟩
    cases xs with
    | nil =>
      left
      rw [List.nil_append] at hsplit
      subst hsplit
      exact ⟨hp, hq⟩
    | cons x xs =>
      right
      obtain ⟨rfl, rfl⟩ := List.cons.inj hsplit
      rw [behind_cons] at hq
      exact ⟨xs, ys, rfl, hp, hq⟩
  · rintro (⟨hp, hq⟩ | ⟨xs, ys, rfl, hp, hq⟩)
    · exact ⟨[], c :: cs, rfl, hp, hq⟩
    · refine ⟨c :: xs, ys, rfl, hp, ?_⟩
      rw [behind_cons]
      exact hq

theorem joined_or_iff (p p' q : Language) (before after : Option Char) (cs : List Char) :
    Joined (fun b xs a => p b xs a ∨ p' b xs a) q before cs after ↔
      Joined p q before cs after ∨ Joined p' q before cs after := by
  constructor
  · rintro ⟨xs, ys, hsplit, hp | hp, hq⟩
    · exact .inl ⟨xs, ys, hsplit, hp, hq⟩
    · exact .inr ⟨xs, ys, hsplit, hp, hq⟩
  · rintro (⟨xs, ys, hsplit, hp, hq⟩ | ⟨xs, ys, hsplit, hp, hq⟩)
    · exact ⟨xs, ys, hsplit, .inl hp, hq⟩
    · exact ⟨xs, ys, hsplit, .inr hp, hq⟩

theorem joined_and_iff (holds : Prop) (p q : Language) (before after : Option Char)
    (cs : List Char) :
    Joined (fun b xs a => holds ∧ p b xs a) q before cs after ↔
      holds ∧ Joined p q before cs after := by
  constructor
  · rintro ⟨xs, ys, hsplit, ⟨hholds, hp⟩, hq⟩
    exact ⟨hholds, xs, ys, hsplit, hp, hq⟩
  · rintro ⟨hholds, xs, ys, hsplit, hp, hq⟩
    exact ⟨xs, ys, hsplit, ⟨hholds, hp⟩, hq⟩

/-- Of a repetition that is not the empty text, some part has the first character. -/
theorem repeated_cons_iff (p : Language) (before after : Option Char) (c : Char)
    (cs : List Char) :
    Repeated p before (c :: cs) after ↔
      Joined (fun _ xs => p before (c :: xs)) (Repeated p) (some c) cs after := by
  constructor
  · intro h
    generalize htext : c :: cs = text at h
    induction h with
    | done => cases htext
    | again before after xs ys hp hrest ih =>
      cases xs with
      | nil => exact ih htext
      | cons x xs =>
        obtain ⟨rfl, rfl⟩ := List.cons.inj htext
        rw [behind_cons] at hrest
        exact ⟨xs, ys, rfl, hp, hrest⟩
  · rintro ⟨xs, ys, rfl, hp, hrest⟩
    have hbehind : Repeated p (behind before (c :: xs)) ys after := by
      rw [behind_cons]
      exact hrest
    exact .again before after (c :: xs) ys hp hbehind

namespace Regex

/-! ### The language of an expression -/

/-- The texts that the expression describes. Marks do not count. -/
def Matches : Regex → Language
  | nothing => fun _ _ _ => False
  | empty => fun _ cs _ => cs = []
  | chars _ set => fun _ cs _ => ∃ c, cs = [c] ∧ set c = true
  | test holds => fun before cs after => cs = [] ∧ holds ⟨before, after⟩ = true
  | seq first second => Joined first.Matches second.Matches
  | alt left right => fun before cs after =>
    left.Matches before cs after ∨ right.Matches before cs after
  | star body => Repeated body.Matches

/-- The texts through which a mark can leave the expression. -/
def Leaves : Regex → Language
  | nothing | empty | test _ => fun _ _ _ => False
  | chars marked _ => fun _ cs _ => cs = [] ∧ marked = true
  | seq first second => fun before cs after =>
    Joined first.Leaves second.Matches before cs after ∨ second.Leaves before cs after
  | alt left right => fun before cs after =>
    left.Leaves before cs after ∨ right.Leaves before cs after
  | star body => Joined body.Leaves (Repeated body.Matches)

theorem nullable_iff (r : Regex) (before after : Option Char) :
    r.nullable ⟨before, after⟩ = true ↔ r.Matches before [] after := by
  induction r with
  | nothing => simp [nullable, Matches]
  | empty => simp [nullable, Matches]
  | chars marked set => simp [nullable, Matches]
  | test holds => simp [nullable, Matches]
  | seq first second hfirst hsecond =>
    simp only [nullable, Matches, Bool.and_eq_true, joined_nil_iff, hfirst, hsecond]
  | alt left right hleft hright =>
    simp only [nullable, Matches, Bool.or_eq_true, hleft, hright]
  | star body _ =>
    simp only [nullable, Matches, true_iff]
    exact .done before after

theorem isFinal_iff (r : Regex) (before after : Option Char) :
    r.isFinal ⟨before, after⟩ = true ↔ r.Leaves before [] after := by
  induction r with
  | nothing => simp [isFinal, Leaves]
  | empty => simp [isFinal, Leaves]
  | chars marked set => simp [isFinal, Leaves]
  | test holds => simp [isFinal, Leaves]
  | seq first second hfirst hsecond =>
    simp only [isFinal, Leaves, Bool.or_eq_true, Bool.and_eq_true, joined_nil_iff, hfirst,
      hsecond, nullable_iff]
  | alt left right hleft hright =>
    simp only [isFinal, Leaves, Bool.or_eq_true, hleft, hright]
  | star body hbody =>
    have hdone : Repeated body.Matches before [] after := .done before after
    simp only [isFinal, Leaves, joined_nil_iff, hbody, hdone, and_true]

/-! ### Marks -/

theorem matches_shift (r : Regex) (p : Position) (c : Char) (enters : Bool) :
    (r.shift p c enters).Matches = r.Matches := by
  induction r generalizing enters with
  | seq first second hfirst hsecond => simp only [shift, Matches, hfirst, hsecond]
  | alt left right hleft hright => simp only [shift, Matches, hleft, hright]
  | star body hbody => simp only [shift, Matches, hbody]
  | _ => rfl

/-- The first part of a joined text after one more character. -/
theorem joined_leaves_iff (p first old q : Language) (enters : Prop) (after : Option Char)
    (before : Option Char) (c : Char) (cs : List Char)
    (h : ∀ xs a, p (some c) xs a ↔ (enters ∧ first before (c :: xs) a) ∨ old before (c :: xs) a) :
    Joined p q (some c) cs after ↔
      (enters ∧ Joined (fun _ xs => first before (c :: xs)) q (some c) cs after) ∨
        Joined (fun _ xs => old before (c :: xs)) q (some c) cs after := by
  rw [← joined_and_iff, ← joined_or_iff]
  apply exists_congr
  intro xs
  apply exists_congr
  intro ys
  rw [h]

/-- A mark can leave, after one more character, through what an old mark or a new one could
leave through with that character first. -/
theorem leaves_shift_iff (r : Regex) (before after : Option Char) (c : Char) (cs : List Char)
    (enters : Bool) :
    (r.shift ⟨before, some c⟩ c enters).Leaves (some c) cs after ↔
      (enters = true ∧ r.Matches before (c :: cs) after) ∨ r.Leaves before (c :: cs) after := by
  induction r generalizing enters cs after with
  | nothing => simp [shift, Leaves, Matches]
  | empty => simp [shift, Leaves, Matches]
  | test holds => simp [shift, Leaves, Matches]
  | chars marked set =>
    simp only [shift, Leaves, Matches, Bool.and_eq_true, reduceCtorEq, false_and, or_false]
    constructor
    · rintro ⟨rfl, henters, hset⟩
      exact ⟨henters, c, rfl, hset⟩
    · rintro ⟨henters, d, hsingle, hset⟩
      obtain ⟨rfl, rfl⟩ := List.cons.inj hsingle
      exact ⟨rfl, henters, hset⟩
  | seq first second hfirst hsecond =>
    -- The second part is entered where a way through the first one ends.
    have hjoined := joined_leaves_iff (first.shift ⟨before, some c⟩ c enters).Leaves
      first.Matches first.Leaves second.Matches (enters = true) after before c cs
      fun xs a => hfirst a xs enters
    simp only [shift, Leaves, Matches, matches_shift, hjoined, hsecond, joined_cons_iff,
      Bool.or_eq_true, Bool.and_eq_true, nullable_iff, isFinal_iff]
    tauto
  | alt left right hleft hright =>
    simp only [shift, Leaves, Matches, hleft, hright]
    tauto
  | star body hbody =>
    -- The body is entered again where a mark can leave it.
    have hjoined := joined_leaves_iff
      (body.shift ⟨before, some c⟩ c (enters || body.isFinal ⟨before, some c⟩)).Leaves
      body.Matches body.Leaves (Repeated body.Matches)
      ((enters || body.isFinal ⟨before, some c⟩) = true) after before c cs
      fun xs a => hbody a xs _
    simp only [shift, Leaves, Matches, matches_shift, hjoined, joined_cons_iff,
      repeated_cons_iff, Bool.or_eq_true, isFinal_iff]
    tauto

/-! ### Searching -/

/-- What is found after a position: the rest of a text that a mark can leave through, or a text
that the expression describes, which begins there or later. -/
theorem foundAfter_iff (r : Regex) (before : Option Char) (cs : List Char) :
    r.foundAfter before cs = true ↔
      (∃ mid post, cs = mid ++ post ∧ r.Leaves before mid post.head?) ∨
        ∃ pre mid post, cs = pre ++ mid ++ post ∧
          r.Matches (behind before pre) mid post.head? := by
  induction cs generalizing r before with
  | nil =>
    simp only [foundAfter, Bool.or_eq_true, nullable_iff, isFinal_iff]
    constructor
    · rintro (hmatches | hleaves)
      · exact .inr ⟨[], [], [], rfl, hmatches⟩
      · exact .inl ⟨[], [], rfl, hleaves⟩
    · rintro (⟨mid, post, hsplit, hleaves⟩ | ⟨pre, mid, post, hsplit, hmatches⟩)
      · obtain ⟨rfl, rfl⟩ := List.nil_eq_append_iff.mp hsplit
        exact .inr hleaves
      · obtain ⟨hparts, rfl⟩ := List.nil_eq_append_iff.mp hsplit
        obtain ⟨rfl, rfl⟩ := List.append_eq_nil_iff.mp hparts
        exact .inl hmatches
  | cons c cs ih =>
    simp only [foundAfter, Bool.or_eq_true, nullable_iff, isFinal_iff, ih, leaves_shift_iff,
      matches_shift, true_and]
    constructor
    · rintro ((hmatches | hleaves) | (⟨mid, post, rfl, hmatches | hleaves⟩ |
        ⟨pre, mid, post, rfl, hmatches⟩))
      · exact .inr ⟨[], [], c :: cs, rfl, hmatches⟩
      · exact .inl ⟨[], c :: cs, rfl, hleaves⟩
      · exact .inr ⟨[], c :: mid, post, rfl, hmatches⟩
      · exact .inl ⟨c :: mid, post, rfl, hleaves⟩
      · refine .inr ⟨c :: pre, mid, post, rfl, ?_⟩
        rw [behind_cons]
        exact hmatches
    · rintro (⟨mid, post, hsplit, hleaves⟩ | ⟨pre, mid, post, hsplit, hmatches⟩)
      · cases mid with
        | nil =>
          rw [List.nil_append] at hsplit
          subst hsplit
          exact .inl (.inr hleaves)
        | cons d mid =>
          obtain ⟨rfl, rfl⟩ := List.cons.inj hsplit
          exact .inr (.inl ⟨mid, post, rfl, .inr hleaves⟩)
      · cases pre with
        | nil =>
          cases mid with
          | nil =>
            rw [List.nil_append, List.nil_append] at hsplit
            subst hsplit
            exact .inl (.inl hmatches)
          | cons d mid =>
            obtain ⟨rfl, rfl⟩ := List.cons.inj hsplit
            exact .inr (.inl ⟨mid, post, rfl, .inl hmatches⟩)
        | cons d pre =>
          obtain ⟨rfl, rfl⟩ := List.cons.inj hsplit
          rw [behind_cons] at hmatches
          exact .inr (.inr ⟨pre, mid, post, rfl, hmatches⟩)

/-- No set of the expression is marked. -/
def IsUnmarked : Regex → Prop
  | nothing | empty | test _ => True
  | chars marked _ => marked = false
  | seq first second => first.IsUnmarked ∧ second.IsUnmarked
  | alt left right => left.IsUnmarked ∧ right.IsUnmarked
  | star body => body.IsUnmarked

theorem IsUnmarked.not_leaves {r : Regex} (h : r.IsUnmarked) (before after : Option Char)
    (cs : List Char) : ¬r.Leaves before cs after := by
  induction r generalizing before cs after with
  | nothing => exact not_false
  | empty => exact not_false
  | test holds => exact not_false
  | chars marked set =>
    rintro ⟨_, hmarked⟩
    have hunmarked : marked = false := h
    rw [hunmarked] at hmarked
    cases hmarked
  | seq first second hfirst hsecond =>
    rintro (⟨xs, ys, _, hleaves, _⟩ | hleaves)
    · exact hfirst h.1 _ _ _ hleaves
    · exact hsecond h.2 _ _ _ hleaves
  | alt left right hleft hright =>
    rintro (hleaves | hleaves)
    · exact hleft h.1 _ _ _ hleaves
    · exact hright h.2 _ _ _ hleaves
  | star body hbody =>
    rintro ⟨xs, ys, _, hleaves, _⟩
    exact hbody h _ _ _ hleaves

/-- A search finds a part of the text that the expression describes between its neighbours. -/
theorem foundIn_iff (r : Regex) (h : r.IsUnmarked) (cs : List Char) :
    r.foundIn cs = true ↔
      ∃ pre mid post, cs = pre ++ mid ++ post ∧ r.Matches pre.getLast? mid post.head? := by
  have hnone : ¬∃ mid post, cs = mid ++ post ∧ r.Leaves none mid post.head? := by
    rintro ⟨mid, post, _, hleaves⟩
    exact h.not_leaves _ _ _ hleaves
  rw [foundIn, foundAfter_iff]
  simp only [hnone, false_or, behind, Option.or_none]

end Regex

end Fieldwise.Pattern
