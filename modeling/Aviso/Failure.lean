import Aviso.Condition.Basic
import Aviso.Expression

/-!
# Why a rendering fails

A rendering fails for a condition that cannot be read, for an expression without
a value, for a conditional block without a condition, and for a question about
the past when the context does not tell it.
-/

namespace Aviso

inductive Failure where
  | condition (error : ConditionError)
  | expression (error : ExpressionError)
  | emptyCondition
  | missingPast
deriving Repr, DecidableEq

def Failure.message : Failure → String
  | condition error => "Grammar error: " ++ error.message
  | expression error => "Resolution error: " ++ error.message
  | emptyCondition => "Condition has no operations"
  | missingPast => "Change detection needs a 'previamente.ticket' object"

end Aviso
