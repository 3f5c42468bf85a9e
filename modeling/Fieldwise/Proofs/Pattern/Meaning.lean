import Fieldwise.Proofs.Outcomes
import Fieldwise.Proofs.Pattern.Language
import Mathlib.Data.List.Forall2

/-!
# The texts that a pattern matches

The meaning of a pattern has no marks, so a pattern matches a text that has a part which its
meaning describes. What a word of sets, a repeated set and a test of a position describe is said
here once for all patterns.
-/

namespace Fieldwise.Pattern

/-! ### Expressions without marks -/

namespace Regex.IsUnmarked

variable {r : Regex} (h : r.IsUnmarked)

include h

theorem times (n : Nat) : (r.times n).IsUnmarked := by
  induction n with
  | zero => trivial
  | succ n ih =>
    cases n with
    | zero => exact h
    | succ n => exact ⟨h, ih⟩

theorem upTo (n : Nat) : (r.upTo n).IsUnmarked := by
  induction n with
  | zero => trivial
  | succ n ih => exact ⟨trivial, h, ih⟩

theorem repeated (least : Nat) (most : Option Nat) : (r.repeated least most).IsUnmarked := by
  cases most with
  | none => exact ⟨h.times least, h⟩
  | some most => exact ⟨h.times least, h.upTo _⟩

end Regex.IsUnmarked

mutual

theorem isUnmarked_toRegex (e : Expression) (mode : Mode) (result : Regex × Mode)
    (h : e.toRegex mode = .ok result) : result.1.IsUnmarked := by
  match e with
  | .empty | .flags _ | .assertion _ =>
    cases h
    trivial
  | .literal _ | .dot | .short _ _ | .property _ _ =>
    rw [Expression.toRegex] at h
    obtain ⟨_, _, hok⟩ := exists_of_bind_eq_ok _ _ _ h
    cases hok
    rfl
  | .bracketed _ _ =>
    rw [Expression.toRegex] at h
    obtain ⟨_, _, hset⟩ := exists_of_bind_eq_ok _ _ _ h
    obtain ⟨_, _, hok⟩ := exists_of_bind_eq_ok _ _ _ hset
    cases hok
    rfl
  | .repetition least most body =>
    rw [Expression.toRegex] at h
    obtain ⟨part, hbody, hok⟩ := exists_of_bind_eq_ok _ _ _ h
    have hpart := isUnmarked_toRegex body mode part hbody
    cases hok
    exact hpart.repeated least most
  | .group changes body =>
    rw [Expression.toRegex] at h
    obtain ⟨part, hbody, hok⟩ := exists_of_bind_eq_ok _ _ _ h
    have hpart := isUnmarked_toRegex body _ part hbody
    cases hok
    exact hpart
  | .alternation branches =>
    rw [Expression.toRegex] at h
    exact isUnmarked_toAlternation branches mode result h
  | .concat parts =>
    rw [Expression.toRegex] at h
    exact isUnmarked_toSequence parts mode result h

theorem isUnmarked_toSequence (parts : List Expression) (mode : Mode) (result : Regex × Mode)
    (h : Expression.toSequence mode parts = .ok result) : result.1.IsUnmarked := by
  match parts with
  | [] =>
    cases h
    trivial
  | part :: rest =>
    rw [Expression.toSequence] at h
    obtain ⟨first, hpart, hrest⟩ := exists_of_bind_eq_ok _ _ _ h
    obtain ⟨second, hsecond, hok⟩ := exists_of_bind_eq_ok _ _ _ hrest
    have hfirst := isUnmarked_toRegex part mode first hpart
    have hunmarked := isUnmarked_toSequence rest _ second hsecond
    cases hok
    exact ⟨hfirst, hunmarked⟩

theorem isUnmarked_toAlternation (branches : List Expression) (mode : Mode)
    (result : Regex × Mode) (h : Expression.toAlternation mode branches = .ok result) :
    result.1.IsUnmarked := by
  match branches with
  | [] =>
    cases h
    trivial
  | branch :: rest =>
    rw [Expression.toAlternation] at h
    obtain ⟨left, hbranch, hrest⟩ := exists_of_bind_eq_ok _ _ _ h
    obtain ⟨right, hright, hok⟩ := exists_of_bind_eq_ok _ _ _ hrest
    have hleft := isUnmarked_toRegex branch mode left hbranch
    have hunmarked := isUnmarked_toAlternation rest _ right hright
    cases hok
    exact ⟨hleft, hunmarked⟩

end

theorem isUnmarked_meaning (source : String) (r : Regex) (h : meaning source = .ok r) :
    r.IsUnmarked := by
  rw [meaning] at h
  obtain ⟨expression, _, hread⟩ := exists_of_bind_eq_ok _ _ _ h
  obtain ⟨_, _, hsized⟩ := exists_of_bind_eq_ok _ _ _ hread
  split at hsized
  · cases hsized
  · obtain ⟨result, hmeant, hok⟩ := exists_of_bind_eq_ok _ _ _ hsized
    have hunmarked := isUnmarked_toRegex _ _ result hmeant
    cases hok
    exact hunmarked

/-- A pattern matches a text of which it describes some part. -/
theorem isMatch_iff (p : Pattern) (cs : List Char) :
    p.isMatch cs = true ↔
      ∃ pre mid post, cs = pre ++ mid ++ post ∧
        p.regex.Matches pre.getLast? mid post.head? :=
  p.regex.foundIn_iff (isUnmarked_meaning p.source p.regex p.meaning_source) cs

/-! ### What parts of a pattern describe -/

namespace Regex

/-- Characters of these sets, one of each, and then a text of the expression. -/
def wordThen (sets : List CharSet) (r : Regex) : Regex :=
  sets.foldr (fun set rest => .seq (.ofSet set) rest) r

theorem matches_wordThen_iff (sets : List CharSet) (r : Regex) (before after : Option Char)
    (cs : List Char) :
    (wordThen sets r).Matches before cs after ↔
      ∃ word rest, cs = word ++ rest ∧ List.Forall₂ (fun set c => set c = true) sets word ∧
        r.Matches (behind before word) rest after := by
  induction sets generalizing before cs with
  | nil =>
    constructor
    · intro h
      exact ⟨[], cs, rfl, .nil, h⟩
    · rintro ⟨word, rest, rfl, hnil, hrest⟩
      cases hnil
      exact hrest
  | cons set sets ih =>
    constructor
    · rintro ⟨first, others, rfl, ⟨c, rfl, hset⟩, hothers⟩
      obtain ⟨word, rest, rfl, hword, hrest⟩ := (ih _ _).mp hothers
      refine ⟨c :: word, rest, rfl, .cons hset hword, ?_⟩
      rw [behind_cons]
      exact hrest
    · rintro ⟨word, rest, rfl, hword, hrest⟩
      cases hword with
      | cons hset hword =>
        rename_i c word
        rw [behind_cons] at hrest
        have hothers := (ih (some c) (word ++ rest)).mpr ⟨word, rest, rfl, hword, hrest⟩
        exact ⟨[c], word ++ rest, rfl, ⟨c, rfl, hset⟩, hothers⟩

theorem repeated_ofSet_iff (set : CharSet) (before after : Option Char) (cs : List Char) :
    Repeated (ofSet set).Matches before cs after ↔ ∀ c ∈ cs, set c = true := by
  induction cs generalizing before with
  | nil =>
    constructor
    · intro _ c hc
      cases hc
    · intro _
      exact .done before after
  | cons c cs ih =>
    rw [repeated_cons_iff, List.forall_mem_cons]
    constructor
    · rintro ⟨xs, ys, rfl, ⟨d, hsingle, hset⟩, hrest⟩
      obtain ⟨rfl, rfl⟩ := List.cons.inj hsingle
      exact ⟨hset, (ih _).mp hrest⟩
    · rintro ⟨hset, hcs⟩
      exact ⟨[], cs, rfl, ⟨c, rfl, hset⟩, (ih _).mpr hcs⟩

theorem matches_test_seq_iff (holds : Position → Bool) (r : Regex) (before after : Option Char)
    (cs : List Char) :
    (seq (.test holds) r).Matches before cs after ↔
      holds ⟨before, ahead cs after⟩ = true ∧ r.Matches before cs after := by
  constructor
  · rintro ⟨xs, ys, rfl, ⟨rfl, hholds⟩, hr⟩
    exact ⟨hholds, hr⟩
  · rintro ⟨hholds, hr⟩
    exact ⟨[], cs, rfl, ⟨rfl, hholds⟩, hr⟩

theorem matches_empty_seq_iff (r : Regex) (before after : Option Char) (cs : List Char) :
    (seq .empty r).Matches before cs after ↔ r.Matches before cs after := by
  constructor
  · rintro ⟨xs, ys, rfl, rfl, hr⟩
    exact hr
  · intro hr
    exact ⟨[], cs, rfl, rfl, hr⟩

theorem matches_seq_empty_iff (r : Regex) (before after : Option Char) (cs : List Char) :
    (seq r .empty).Matches before cs after ↔ r.Matches before cs after := by
  constructor
  · rintro ⟨xs, ys, rfl, hr, rfl⟩
    rw [List.append_nil]
    exact hr
  · intro hr
    exact ⟨cs, [], (List.append_nil cs).symm, hr, rfl⟩

end Regex

end Fieldwise.Pattern
