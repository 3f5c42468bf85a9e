import Fieldwise.Pattern.Error

/-!
# Faults of rule text

Why a token of rule text makes no constraint.
-/

namespace Fieldwise

/-- A reason to refuse a token. -/
inductive RuleError
  | unknownRule (name : String)
  | missingArgument (rule : String)
  | invalidArgument (rule argument : String)
  | invalidPattern (pattern : String) (reason : PatternError)
deriving DecidableEq, Repr

/-- The text of a reason; of what is wrong with a pattern it has the last line. -/
def RuleError.message : RuleError → String
  | unknownRule name => "unknown rule '" ++ name ++ "'"
  | missingArgument rule => "rule '" ++ rule ++ "' requires an argument"
  | invalidArgument rule argument =>
    "invalid argument '" ++ argument ++ "' for rule '" ++ rule ++ "'"
  | invalidPattern pattern reason =>
    "invalid pattern '" ++ pattern ++ "': " ++ reason.toText

end Fieldwise
