import Aviso.Condition.Basic
import Aviso.Placeholder

/-!
# Writing a condition

A comparison is written with both operands as placeholders and the canonical
spelling of its comparator between them, and comparisons are joined by the
letters of their connectives.
-/

namespace Aviso

/-- A comparison without its connective. -/
def Comparison.print (comparison : Comparison) : List Char :=
  Placeholder.print comparison.left.toList ++ ' ' :: comparison.comparator.keyword.toList ++
    ' ' :: Placeholder.print comparison.right.toList

namespace Condition

/-- A comparison behind others, with the connective before it. -/
def printNext (comparison : Comparison) : List Char :=
  match comparison.connective with
  | some connective => ' ' :: connective.keyword :: ' ' :: comparison.print
  | none => ' ' :: comparison.print

/-- The comparisons of a condition as a tag holds them. -/
def print : List Comparison → String
  | [] => ""
  | first :: others => String.ofList (first.print ++ others.flatMap printNext)

end Condition

end Aviso
