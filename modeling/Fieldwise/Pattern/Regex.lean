/-!
# Searching a text

A regular expression over sets of characters and tests of a position. A search reads
the text once and keeps a mark on every set whose character was the last one read, so
that a mark stands for all ways of reading which have come there. The search succeeds
where the expression matches without a character, or a mark can leave the expression.
-/

namespace Fieldwise.Pattern

/-- The neighbourhood of a position: the characters before and after it. -/
structure Position where
  before : Option Char
  after : Option Char

/-- A regular expression, some of its sets marked. -/
inductive Regex
  | nothing
  | empty
  | chars (marked : Bool) (set : Char → Bool)
  | test (holds : Position → Bool)
  | seq (first second : Regex)
  | alt (left right : Regex)
  | star (body : Regex)

namespace Regex

/-- The expression matches at a position without a character. -/
def nullable (p : Position) : Regex → Bool
  | nothing => false
  | empty => true
  | chars _ _ => false
  | test holds => holds p
  | seq first second => first.nullable p && second.nullable p
  | alt left right => left.nullable p || right.nullable p
  | star _ => true

/-- A mark can leave the expression at a position without a character. -/
def isFinal (p : Position) : Regex → Bool
  | nothing => false
  | empty => false
  | chars marked _ => marked
  | test _ => false
  | seq first second => (first.isFinal p && second.nullable p) || second.isFinal p
  | alt left right => left.isFinal p || right.isFinal p
  | star body => body.isFinal p

/-- The marks after one more character, where a new way of reading enters the
expression or does not; the position is the one before the character. -/
def shift (p : Position) (c : Char) (enters : Bool) : Regex → Regex
  | nothing => nothing
  | empty => empty
  | chars _ set => chars (enters && set c) set
  | test holds => test holds
  | seq first second =>
    seq (first.shift p c enters)
      (second.shift p c (enters && first.nullable p || first.isFinal p))
  | alt left right => alt (left.shift p c enters) (right.shift p c enters)
  | star body => star (body.shift p c (enters || body.isFinal p))

/-- The expression matches some part of a text that begins at a position or before. -/
def foundAfter (r : Regex) (before : Option Char) : List Char → Bool
  | [] =>
    let p : Position := ⟨before, none⟩
    r.nullable p || r.isFinal p
  | c :: cs =>
    let p : Position := ⟨before, some c⟩
    r.nullable p || r.isFinal p || foundAfter (r.shift p c true) (some c) cs

def foundIn (r : Regex) (cs : List Char) : Bool := r.foundAfter none cs

/-! ### Repetition -/

def times (r : Regex) : Nat → Regex
  | 0 => empty
  | 1 => r
  | n + 1 => seq r (r.times n)

def upTo (r : Regex) : Nat → Regex
  | 0 => empty
  | n + 1 => alt empty (seq r (r.upTo n))

/-- An expression from `least` to `most` times, or any number from `least` on. -/
def repeated (r : Regex) (least : Nat) : Option Nat → Regex
  | none => seq (r.times least) (star r)
  | some most => seq (r.times least) (r.upTo (most - least))

end Regex

end Fieldwise.Pattern
