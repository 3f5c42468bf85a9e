import Fieldwise.Pattern.Meaning
import Fieldwise.Pattern.Reader

/-!
# Patterns

A pattern is a text that reads as an expression which has a meaning, together with
that meaning. A pattern whose counts make it too large is refused, after all else. It
matches a text which has a part that the expression describes; to describe the whole text
a pattern says so with `^` and `$`.

The size of a pattern is an estimate: every part counts alike, a letter as much as a set of
thousands of characters. So some patterns near the limit are accepted that are too large once
their sets are counted, as `\w{1000}`, `^\w{1,255}$` and `^.{1,65535}$` are.
-/

namespace Fieldwise

/-- The greatest size of a pattern, in bytes. -/
def Pattern.sizeLimit : Nat := 10485760

/-- The bytes that every part is taken to have, whatever its set holds. -/
def Pattern.partSize : Nat := 32

/-- The meaning of a text as a pattern. Whether an expression has a meaning does not depend
on its counts, so that is asked before they are written out. Acceptance is approximate near
the limit of size. -/
def Pattern.meaning (source : String) : Except PatternError Pattern.Regex := do
  let expression ← Pattern.Expression.ofChars source.toList
  let _ ← expression.once.toRegex {}
  if sizeLimit < partSize * expression.simplified.size then .error (.tooLarge sizeLimit)
  else
    let (regex, _) ← expression.simplified.toRegex {}
    return regex

/-- A text that is a pattern, and its meaning. -/
structure Pattern where
  source : String
  regex : Pattern.Regex
  meaning_source : Pattern.meaning source = .ok regex

namespace Pattern

def compile (source : String) : Except PatternError Pattern :=
  match h : meaning source with
  | .ok regex => .ok ⟨source, regex, h⟩
  | .error e => .error e

def isMatch (p : Pattern) (cs : List Char) : Bool := p.regex.foundIn cs

theorem source_of_compile {source : String} {p : Pattern} (h : compile source = .ok p) :
    p.source = source := by
  unfold compile at h
  split at h
  · cases h; rfl
  · cases h

theorem ext_source {p q : Pattern} (h : p.source = q.source) : p = q := by
  obtain ⟨s, r, hr⟩ := p
  obtain ⟨t, u, hu⟩ := q
  subst h
  obtain rfl : r = u := by
    have := hr.symm.trans hu
    exact Except.ok.inj this
  rfl

theorem compile_source (p : Pattern) : compile p.source = .ok p := by
  unfold compile
  split
  · rename_i regex h
    exact congrArg Except.ok (ext_source rfl)
  · rename_i e h
    rw [p.meaning_source] at h
    cases h

end Pattern

end Fieldwise
