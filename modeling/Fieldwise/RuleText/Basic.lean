import Fieldwise.Constraint
import Fieldwise.Event
import Fieldwise.Text.Blank

/-!
# Rule text

The constraints of a field can be written on one line, such as
`required|min_len:3|in:a,b`: tokens with bars between them, each the code of a rule
with an argument after the first colon. Blanks around tokens, codes, arguments and the
items of a list do not count. A text is read permissively, where a token that makes no
constraint is dropped and reported; strictly, where it is an error; or for its faults
alone.
-/

namespace Fieldwise.RuleText

/-! ### Tokens -/

/-- The code of a rule, and its argument. -/
structure Token where
  name : List Char
  argument : Option (List Char)
deriving DecidableEq

/-- The token that a text between bars writes, if it is not blank. -/
def Token.ofChars? (cs : List Char) : Option Token :=
  match Text.trim cs with
  | [] => none
  | trimmed =>
    match Text.cutAt ':' trimmed with
    | some (name, argument) => some ⟨Text.trim name, some (Text.trim argument)⟩
    | none => some ⟨trimmed, none⟩

/-- The tokens of a text, in order. -/
def tokens (cs : List Char) : List Token := (cs.splitOn '|').filterMap Token.ofChars?

/-! ### Arguments -/

namespace Token

/-- The argument, which may not be empty. -/
def required (t : Token) : Except RuleError (List Char) :=
  match t.argument with
  | none | some [] => .error (.missingArgument (String.ofList t.name))
  | some argument => .ok argument

/-- The argument, read by a reader that may refuse it. -/
def readArgument {α : Type} (t : Token) (read : List Char → Option α) :
    Except RuleError α := do
  let argument ← t.required
  match read argument with
  | some a => return a
  | none => .error (.invalidArgument (String.ofList t.name) (String.ofList argument))

def textArgument (t : Token) : Except RuleError String := t.required.map String.ofList

/-- The argument as a list with commas between the items. -/
def listArgument (t : Token) : Except RuleError (List String) :=
  t.required.map fun argument =>
    (argument.splitOn ',').map fun item => String.ofList (Text.trim item)

def patternArgument (t : Token) : Except RuleError Rule := do
  let source ← t.textArgument
  match Pattern.compile source with
  | .ok p => return .pattern p source
  | .error reason => .error (.invalidPattern source reason)

/-- The rule that a token writes. A rule without a parameter takes no notice of an
argument. -/
def rule (t : Token) : Except RuleError Rule :=
  match String.ofList t.name with
  | "required" => .ok .required
  | "email" => .ok .email
  | "url" => .ok .url
  | "alpha" => .ok .alpha
  | "alphanum" => .ok .alphanumeric
  | "numeric" => .ok .numeric
  | "uuid" => .ok .uuid
  | "ip" => .ok .ip
  | "ipv4" => .ok .ipv4
  | "ipv6" => .ok .ipv6
  | "date" => .ok (.timeFormat .date)
  | "time" => .ok (.timeFormat .time)
  | "datetime" => .ok (.timeFormat .dateTime)
  | "min" => (t.readArgument Number.readInt64).map .min
  | "max" => (t.readArgument Number.readInt64).map .max
  | "min_len" => (t.readArgument Number.readUInt64).map .minLength
  | "max_len" => (t.readArgument Number.readUInt64).map .maxLength
  | "in" => t.listArgument.map .oneOf
  | "not_in" => t.listArgument.map .notOneOf
  | "equal" => t.textArgument.map .equal
  | "not_equal" => t.textArgument.map .notEqual
  | "regex" => t.patternArgument
  | name => .error (.unknownRule name)

def constraint (t : Token) : Except RuleError Constraint := t.rule.map fun rule => ⟨rule, none⟩

end Token

/-! ### Reading -/

/-- The constraint of a token of a text, if it makes one; a fault is reported. -/
def readToken (text : String) (t : Token) : Logged Constraints :=
  match t.constraint with
  | .ok c => pure [c]
  | .error e => do
    Logged.report (.ruleDropped text e)
    return []

/-- The constraints of a text; tokens that make none are dropped. -/
def parse (text : String) : Logged Constraints :=
  Logged.collect (readToken text) (tokens text.toList)

/-- The constraints of a text, or its first fault. -/
def parseStrict (text : String) : Except RuleError Constraints :=
  (tokens text.toList).mapM Token.constraint

/-- The fault of a token, if it makes no constraint. -/
def Token.fault? (t : Token) : Option RuleError :=
  match t.constraint with
  | .ok _ => none
  | .error e => some e

/-- The faults of a text, in order. -/
def diagnose (text : String) : List RuleError := (tokens text.toList).filterMap Token.fault?

/-! ### What the readings give -/

theorem value_readToken (text : String) (t : Token) :
    (readToken text t).value = t.constraint.toOption.toList := by
  unfold readToken
  cases t.constraint <;> rfl

theorem events_readToken (text : String) (t : Token) :
    (readToken text t).events = (t.fault?.map (Event.ruleDropped text)).toList := by
  unfold readToken Token.fault?
  cases t.constraint <;> rfl

/-- Reading permissively keeps the constraints of the tokens that make one, in order. -/
theorem value_parse (text : String) :
    (parse text).value = (tokens text.toList).filterMap fun t => t.constraint.toOption := by
  unfold parse
  rw [Logged.value_collect]
  induction tokens text.toList with
  | nil => rfl
  | cons t rest ih =>
    rw [List.flatMap_cons, ih, value_readToken, List.filterMap_cons]
    cases t.constraint.toOption <;> rfl

/-- Reading permissively reports every fault of the text, in order. -/
theorem events_parse (text : String) :
    (parse text).events = (diagnose text).map (Event.ruleDropped text) := by
  unfold parse diagnose
  rw [Logged.events_collect]
  induction tokens text.toList with
  | nil => rfl
  | cons t rest ih =>
    rw [List.flatMap_cons, ih, events_readToken, List.filterMap_cons]
    cases t.fault? <;> rfl

end Fieldwise.RuleText
