/-!
# Expressions

A pattern is written as an expression: characters, sets of characters, tests of a
position, and how they are grouped, repeated and combined. An expression keeps what
the pattern says; flags have not been applied yet.
-/

namespace Fieldwise.Pattern

/-! ### Atoms -/

/-- A character as written. A byte escape is two hexadecimal digits, which mean a
byte where Unicode is switched off. -/
structure Literal where
  char : Char
  isByte : Bool := false
deriving DecidableEq, Repr

/-- A test of a position in the text. -/
inductive Assertion
  | lineStart | lineEnd | textStart | textEnd
  | wordBoundary | notWordBoundary
  | wordStart | wordEnd | wordStartHalf | wordEndHalf
deriving DecidableEq, Repr

/-- The sets with an escape of one letter. -/
inductive ShortSet
  | digit | space | word
deriving DecidableEq, Repr

/-- The sets with a name between colons. -/
inductive AsciiSet
  | alnum | alpha | ascii | blank | cntrl | digit | graph | lower | print | punct | space
  | upper | word | xdigit
deriving DecidableEq, Repr

/-- A question about a property of characters: a name, or a name with a value. -/
inductive PropertyQuery
  | named (name : String)
  | valued (name value : String)
deriving DecidableEq, Repr

/-! ### Sets -/

/-- How two sets are combined. -/
inductive SetOperator
  | intersection | difference | symmetricDifference
deriving DecidableEq, Repr

/-- A set of characters as written between brackets. -/
inductive SetExpression
  | literal (l : Literal)
  | range (first last : Literal)
  | ascii (negated : Bool) (set : AsciiSet)
  | short (negated : Bool) (set : ShortSet)
  | property (negated : Bool) (query : PropertyQuery)
  | union (items : List SetExpression)
  | bracketed (negated : Bool) (set : SetExpression)
  | combined (operator : SetOperator) (left right : SetExpression)

/-- The set of these items; a single item stands for itself. -/
def SetExpression.ofItems : List SetExpression → SetExpression
  | [item] => item
  | items => .union items

/-! ### Expressions -/

/-- A switch for the expression after it. -/
inductive Flag
  | caseInsensitive | multiLine | dotMatchesNewline | swapGreed | unicode | crlf | ignoreSpace
deriving DecidableEq, Repr

/-- Flags that are switched on, and flags that are switched off. -/
structure Flags where
  on : List Flag
  off : List Flag
deriving DecidableEq, Repr

/-- Whether the flags switch a flag, and how. -/
def Flags.switch (flags : Flags) (flag : Flag) : Option Bool :=
  if flags.on.contains flag then some true
  else if flags.off.contains flag then some false
  else none

/-- What a pattern says. -/
inductive Expression
  | empty
  | flags (flags : Flags)
  | literal (l : Literal)
  | dot
  | assertion (a : Assertion)
  | short (negated : Bool) (set : ShortSet)
  | property (negated : Bool) (query : PropertyQuery)
  | bracketed (negated : Bool) (set : SetExpression)
  | repetition (least : Nat) (most : Option Nat) (body : Expression)
  | group (flags : Flags) (body : Expression)
  | alternation (branches : List Expression)
  | concat (parts : List Expression)

/-- The expressions one after another; a single one stands for itself. -/
def Expression.ofParts : List Expression → Expression
  | [] => .empty
  | [part] => part
  | parts => .concat parts

/-! ### Depth -/

mutual

/-- How deep a set nests brackets, unions and operators. -/
def SetExpression.depth : SetExpression → Nat
  | .literal _ | .range _ _ | .ascii _ _ | .short _ _ | .property _ _ => 0
  | .union [] => 0
  | .union items => 1 + depthOfItems items
  | .bracketed _ set => 1 + set.depth
  | .combined _ left right => 1 + max left.depth right.depth

def SetExpression.depthOfItems : List SetExpression → Nat
  | [] => 0
  | item :: rest => max item.depth (depthOfItems rest)

end

mutual

def Expression.depth : Expression → Nat
  | .bracketed _ set => 1 + set.depth
  | .repetition _ _ body => 1 + body.depth
  | .group _ body => 1 + body.depth
  | .alternation branches => 1 + depthOfList branches
  | .concat parts => 1 + depthOfList parts
  | _ => 0

def Expression.depthOfList : List Expression → Nat
  | [] => 0
  | e :: rest => max e.depth (depthOfList rest)

end

/-! ### Counts -/

mutual

def Expression.isEmptyOnly : Expression → Bool
  | .empty | .flags _ | .assertion _ => true
  | .repetition _ most body => most == some 0 || body.isEmptyOnly
  | .group _ body => body.isEmptyOnly
  | .alternation branches => areEmptyOnly branches
  | .concat parts => areEmptyOnly parts
  | _ => false

def Expression.areEmptyOnly : List Expression → Bool
  | [] => true
  | e :: rest => e.isEmptyOnly && areEmptyOnly rest

end

mutual

/-- The expression with no more counts than it needs: nothing is left of a part that is
taken no times, and the empty text need not be matched more than once. -/
def Expression.simplified : Expression → Expression
  | .repetition least most body =>
    let body := body.simplified
    if most = some 0 then .empty
    else if body.isEmptyOnly then .repetition (min least 1) (some 1) body
    else .repetition least most body
  | .group changes body => .group changes body.simplified
  | .alternation branches => .alternation (simplifiedEach branches)
  | .concat parts => .concat (simplifiedEach parts)
  | e => e

def Expression.simplifiedEach : List Expression → List Expression
  | [] => []
  | e :: rest => e.simplified :: simplifiedEach rest

end

mutual

def Expression.once : Expression → Expression
  | .repetition _ _ body => body.once
  | .group changes body => .group changes body.once
  | .alternation branches => .alternation (onceEach branches)
  | .concat parts => .concat (onceEach parts)
  | e => e

def Expression.onceEach : List Expression → List Expression
  | [] => []
  | e :: rest => e.once :: onceEach rest

end

/-! ### Size -/

mutual

/-- The number of parts on the longest way through an expression, once its counts are
written out. -/
def Expression.size : Expression → Nat
  | .empty | .flags _ => 0
  | .repetition least most body => max least (most.getD 1) * body.size
  | .group _ body => body.size
  | .alternation branches => sizeOfLongest branches
  | .concat parts => sizeOfAll parts
  | _ => 1

def Expression.sizeOfLongest : List Expression → Nat
  | [] => 0
  | e :: rest => max e.size (sizeOfLongest rest)

def Expression.sizeOfAll : List Expression → Nat
  | [] => 0
  | e :: rest => e.size + sizeOfAll rest

end

end Fieldwise.Pattern
