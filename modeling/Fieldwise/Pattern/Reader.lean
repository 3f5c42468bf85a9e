import Fieldwise.Pattern.Atom
import Fieldwise.Unicode.Recent

/-!
# Reading patterns

The expression that a text writes, or the first fault of its form. An alternation is
read up to the parenthesis that closes it or to the end; a set is read up to its
bracket. The fuel of a reader is more than the characters that are left, and each
round takes one at least.
-/

namespace Fieldwise.Pattern

/-! ### Sets -/

/-- An atom as an item of a set; a test of a position is none. -/
def Atom.toItem : Atom → Except PatternError SetExpression
  | .literal l => .ok (.literal l)
  | .short negated set => .ok (.short negated set)
  | .property negated query => .ok (.property negated query)
  | .dot | .assertion _ => .error .classEscapeInvalid

def Atom.toEnd : Atom → Except PatternError Literal
  | .literal l => .ok l
  | _ => .error .classRangeLiteral

/-- An atom inside brackets, where only the backslash is special. -/
def readSetAtom (ignoreSpace : Bool) : List Char → Except PatternError (Atom × List Char)
  | [] => .error .classUnclosed
  | '\\' :: rest => readEscape ignoreSpace rest
  | c :: rest => .ok (.literal ⟨c, false⟩, rest)

/-- The character that decides whether a hyphen makes a range: the next one after
blanks, where these do not count, and after the sign of a comment. -/
def peekPast (ignoreSpace : Bool) (cs : List Char) : Option Char :=
  if ignoreSpace then
    match Text.trimStart cs with
    | '#' :: rest => (Text.trimStart rest).head?
    | rest => rest.head?
  else cs.head?

/-- An atom, or a range from one to another. -/
def readItem (ignoreSpace : Bool) (cs : List Char) :
    Except PatternError (SetExpression × List Char) := do
  let (first, rest) ← readSetAtom ignoreSpace cs
  match skip ignoreSpace rest with
  | [] => .error .classUnclosed
  | c :: after =>
    let next := peekPast ignoreSpace after
    if c ≠ '-' ∨ next = some ']' ∨ next = some '-' then
      return (← first.toItem, c :: after)
    else
      match skip ignoreSpace after with
      | [] => .error .classUnclosed
      | cs => do
        let (last, rest) ← readSetAtom ignoreSpace cs
        let low ← first.toEnd
        let high ← last.toEnd
        if high.char < low.char then .error .classRangeInvalid
        else return (.range low high, rest)

def asciiSetNames : List (String × AsciiSet) :=
  [("alnum", .alnum), ("alpha", .alpha), ("ascii", .ascii), ("blank", .blank),
    ("cntrl", .cntrl), ("digit", .digit), ("graph", .graph), ("lower", .lower),
    ("print", .print), ("punct", .punct), ("space", .space), ("upper", .upper),
    ("word", .word), ("xdigit", .xdigit)]

/-- A name between colons, after a bracket inside brackets, if one stands there. -/
def readNamedSet? (cs : List Char) : Option (SetExpression × List Char) := do
  let rest ← Text.dropPrefix? [':'] cs
  let negated := rest.head? == some '^'
  let rest := if negated then rest.drop 1 else rest
  let (name, rest) ← Text.cutAt ':' rest
  let set ← asciiSetNames.lookup (String.ofList name)
  let rest ← Text.dropPrefix? [']'] rest
  return (.ascii negated set, rest)

/-- The hyphens at the beginning of a set, which stand for themselves, added to the
items. -/
def takeHyphens (ignoreSpace : Bool) (items : List SetExpression) :
    Nat → List Char → List SetExpression × List Char
  | 0, cs => (items, cs)
  | fuel + 1, cs =>
    match cs with
    | '-' :: rest =>
      takeHyphens ignoreSpace (.literal ⟨'-', false⟩ :: items) fuel (skip ignoreSpace rest)
    | cs => (items, cs)

/-- The beginning of a set after its bracket: whether it is negated, and its first
items. Hyphens stand for themselves here, and so does a closing bracket which would
leave the set empty. -/
def readSetStart (ignoreSpace : Bool) (cs : List Char) :
    Bool × List SetExpression × List Char :=
  let cs := skip ignoreSpace cs
  let negated := cs.head? == some '^'
  let cs := if negated then skip ignoreSpace (cs.drop 1) else cs
  let (items, cs) := takeHyphens ignoreSpace [] (cs.length + 1) cs
  match items, cs with
  | [], ']' :: rest => (negated, [.literal ⟨']', false⟩], skip ignoreSpace rest)
  | _, _ => (negated, items, cs)

/-- An operator between two sets, with the set on its left. -/
abbrev Pending := Option (SetOperator × SetExpression)

/-- The set of the items read last, combined with what stands before the operator. -/
def closeSet (pending : Pending) (items : List SetExpression) : SetExpression :=
  let set := SetExpression.ofItems items.reverse
  match pending with
  | none => set
  | some (operator, left) => .combined operator left set

/-- The rest of a set up to its bracket. The items are those since the last operator,
the latest first. -/
def readSet (ignoreSpace : Bool) : Nat → Pending → List SetExpression → List Char →
    Except PatternError (SetExpression × List Char)
  | 0, _, _, _ => .error .classUnclosed
  | fuel + 1, pending, items, cs =>
    match skip ignoreSpace cs with
    | [] => .error .classUnclosed
    | ']' :: rest => .ok (closeSet pending items, rest)
    | '&' :: '&' :: rest =>
      readSet ignoreSpace fuel (some (.intersection, closeSet pending items)) [] rest
    | '-' :: '-' :: rest =>
      readSet ignoreSpace fuel (some (.difference, closeSet pending items)) [] rest
    | '~' :: '~' :: rest =>
      readSet ignoreSpace fuel (some (.symmetricDifference, closeSet pending items)) [] rest
    | '[' :: rest =>
      match readNamedSet? rest with
      | some (item, rest) => readSet ignoreSpace fuel pending (item :: items) rest
      | none => do
        let (negated, start, rest) := readSetStart ignoreSpace rest
        let (inner, rest) ← readSet ignoreSpace fuel none start rest
        readSet ignoreSpace fuel pending (.bracketed negated inner :: items) rest
    | cs => do
      let (item, rest) ← readItem ignoreSpace cs
      readSet ignoreSpace fuel pending (item :: items) rest

/-! ### Flags -/

def flag? (c : Char) : Option Flag :=
  [('i', Flag.caseInsensitive), ('m', .multiLine), ('s', .dotMatchesNewline),
    ('U', .swapGreed), ('u', .unicode), ('R', .crlf), ('x', .ignoreSpace)].lookup c

/-- The flags up to a colon or a parenthesis, and the text from there. The state says
what stands before: the flags switched on and off, and, after a hyphen, whether a
flag follows it. -/
def readFlags (flags : Flags) (hyphen : Option Bool) :
    List Char → Except PatternError (Flags × Option Bool × List Char)
  | [] => .error .flagUnfinished
  | c :: rest =>
    if c = ':' ∨ c = ')' then
      if hyphen = some false then .error .flagDanglingNegation
      else .ok (flags, hyphen, c :: rest)
    else if c = '-' then
      if hyphen.isSome then .error .flagRepeatedNegation
      else readFlags flags (some false) rest
    else
      match flag? c with
      | none => .error .flagUnrecognized
      | some flag =>
        if flags.on.contains flag ∨ flags.off.contains flag then .error .flagDuplicate
        else if hyphen.isSome then
          readFlags ⟨flags.on, flags.off ++ [flag]⟩ (some true) rest
        else readFlags ⟨flags.on ++ [flag], flags.off⟩ none rest

/-! ### Groups -/

def isNameChar (first : Bool) (c : Char) : Bool :=
  c == '_' || Unicode.isAlphabetic c ||
    (!first && (c == '.' || c == '[' || c == ']' || Unicode.isNumeric c))

/-- The name of a group up to its angle bracket, and the text after that. -/
def readName (first : Bool) : List Char → Except PatternError (List Char × List Char)
  | [] => .error .groupNameUnfinished
  | c :: rest =>
    if c = '>' then .ok ([], rest)
    else if isNameChar first c then (readName false rest).map fun r => (c :: r.1, r.2)
    else .error .groupNameInvalid

/-- What a parenthesis opens. -/
inductive Opening
  | switch (flags : Flags)
  | group (flags : Flags) (name : Option String)

/-- What a parenthesis opens, read from the text after it; `names` are those of the
groups before. -/
def readOpening (names : List String) (cs : List Char) :
    Except PatternError (Opening × List Char) :=
  let named (rest : List Char) : Except PatternError (Opening × List Char) := do
    let (name, rest) ← readName true rest
    let name := String.ofList name
    if name.isEmpty then .error .groupNameEmpty
    else if names.contains name then .error .groupNameDuplicate
    else return (.group ⟨[], []⟩ (some name), rest)
  match cs with
  | '?' :: '=' :: _ | '?' :: '!' :: _ => .error .lookAround
  | '?' :: '<' :: '=' :: _ | '?' :: '<' :: '!' :: _ => .error .lookAround
  | '?' :: 'P' :: '<' :: rest => named rest
  | '?' :: '<' :: rest => named rest
  | ['?'] => .error .groupUnclosed
  | '?' :: rest => do
    match ← readFlags ⟨[], []⟩ none rest with
    | (flags, hyphen, ')' :: rest) =>
      if flags.on.isEmpty ∧ hyphen = none then .error .repetitionMissing
      else return (.switch flags, rest)
    | (flags, _, rest) => return (.group flags none, rest.drop 1)
  | cs => .ok (.group ⟨[], []⟩ none, cs)

/-! ### Repetitions -/

/-- The expression that a repetition stands after, taken from the latest first. -/
def takeRepeated : List Expression → Except PatternError (Expression × List Expression)
  | [] | .empty :: _ | .flags _ :: _ => .error .repetitionMissing
  | body :: items => .ok (body, items)

/-- The text after the question mark that may follow a repetition. -/
def dropLazy : List Char → List Char
  | '?' :: rest => rest
  | cs => cs

/-- The counts between braces, read from the text after the first. -/
def readCounts (ignoreSpace : Bool) (cs : List Char) :
    Except PatternError ((Nat × Option Nat) × List Char) := do
  let finish (least : Nat) (most : Option Nat) :
      List Char → Except PatternError ((Nat × Option Nat) × List Char)
    | '\x7d' :: rest =>
      if most.any (· < least) then .error .repetitionCountInvalid
      else .ok ((least, most), dropLazy (skip ignoreSpace rest))
    | _ => .error .repetitionCountUnclosed
  match skip ignoreSpace cs with
  | [] => .error .repetitionCountUnclosed
  | cs =>
    match readCount ignoreSpace cs with
    | (_, []) => .error .repetitionCountUnclosed
    | (least, ',' :: rest) =>
      match skip ignoreSpace rest with
      | [] => .error .repetitionCountUnclosed
      | '\x7d' :: rest => finish (← least) none ('\x7d' :: rest)
      | rest => do
        let least ← least
        let (most, rest) := readCount ignoreSpace rest
        finish least (some (← most)) rest
    | (count, rest) => do
      let count ← count
      finish count (some count) rest

/-! ### Expressions -/

def Atom.toExpression : Atom → Expression
  | .literal l => .literal l
  | .dot => .dot
  | .assertion a => .assertion a
  | .short negated set => .short negated set
  | .property negated query => .property negated query

def readAtom (ignoreSpace : Bool) : List Char → Except PatternError (Atom × List Char)
  | [] => .error .escapeUnfinished
  | '\\' :: rest => readEscape ignoreSpace rest
  | c :: rest =>
    if c = '.' then .ok (.dot, rest)
    else if c = '^' then .ok (.assertion .lineStart, rest)
    else if c = '$' then .ok (.assertion .lineEnd, rest)
    else .ok (.literal ⟨c, false⟩, rest)

/-- What reading keeps while it goes on: whether blanks count, and the names of the
groups. -/
structure Scope where
  ignoreSpace : Bool
  names : List String

/-- The alternation of the branches and of a last one with these parts, all the latest
first. -/
def closeBranches (branches parts : List Expression) : Expression :=
  let last := Expression.ofParts parts.reverse
  match branches with
  | [] => last
  | branches => .alternation (branches.reverse ++ [last])

/-- An alternation from the place where `branches` have been read and `parts` of the
next one, up to the parenthesis that closes it if it is nested, and else to the end;
with the names of the groups and the text after it. -/
def readBranches (nested : Bool) : Nat → Scope → List Expression → List Expression →
    List Char → Except PatternError (Expression × List String × List Char)
  | 0, _, _, _, _ => .error .groupUnclosed
  | fuel + 1, scope, branches, parts, cs =>
    match skip scope.ignoreSpace cs with
    | [] =>
      if nested then .error .groupUnclosed
      else .ok (closeBranches branches parts, scope.names, [])
    | ')' :: rest =>
      if nested then .ok (closeBranches branches parts, scope.names, rest)
      else .error .groupUnopened
    | '|' :: rest =>
      readBranches nested fuel scope (.ofParts parts.reverse :: branches) [] rest
    | '(' :: rest => do
      match ← readOpening scope.names (skip scope.ignoreSpace rest) with
      | (.switch flags, rest) =>
        let ignoreSpace := (flags.switch .ignoreSpace).getD scope.ignoreSpace
        readBranches nested fuel ⟨ignoreSpace, scope.names⟩ branches (.flags flags :: parts)
          rest
      | (.group flags name, rest) =>
        let ignoreSpace := (flags.switch .ignoreSpace).getD scope.ignoreSpace
        let (body, names, rest) ←
          readBranches true fuel ⟨ignoreSpace, scope.names ++ name.toList⟩ [] [] rest
        readBranches nested fuel ⟨scope.ignoreSpace, names⟩ branches
          (.group flags body :: parts) rest
    | '[' :: rest => do
      let (negated, start, rest) := readSetStart scope.ignoreSpace rest
      let (set, rest) ← readSet scope.ignoreSpace (rest.length + 1) none start rest
      readBranches nested fuel scope branches (.bracketed negated set :: parts) rest
    | '?' :: rest => do
      let (body, parts) ← takeRepeated parts
      readBranches nested fuel scope branches (.repetition 0 (some 1) body :: parts)
        (dropLazy rest)
    | '*' :: rest => do
      let (body, parts) ← takeRepeated parts
      readBranches nested fuel scope branches (.repetition 0 none body :: parts) (dropLazy rest)
    | '+' :: rest => do
      let (body, parts) ← takeRepeated parts
      readBranches nested fuel scope branches (.repetition 1 none body :: parts) (dropLazy rest)
    | '\x7b' :: rest => do
      let (body, parts) ← takeRepeated parts
      let ((least, most), rest) ← readCounts scope.ignoreSpace rest
      readBranches nested fuel scope branches (.repetition least most body :: parts) rest
    | cs => do
      let (atom, rest) ← readAtom scope.ignoreSpace cs
      readBranches nested fuel scope branches (atom.toExpression :: parts) rest

def depthLimit : Nat := 250

def Expression.ofChars (cs : List Char) : Except PatternError Expression := do
  let (expression, _, _) ← readBranches false (cs.length + 1) ⟨false, []⟩ [] [] cs
  if depthLimit < expression.depth then .error (.nestLimitExceeded depthLimit)
  else return expression

end Fieldwise.Pattern
