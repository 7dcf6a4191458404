import Aviso.Failure
import Aviso.Json.Equality
import Aviso.Text.Cut

/-!
# The verdict of a condition

* `Comparison.judge` decides one comparison.  Operands of the wrong type make it
  false; only an operand without a value, or a missing past, is an error.
* `Verdict.joinAll` joins verdicts from left to right, each by its own connective.
* `Condition.judge` decides a condition.  It decides every comparison first, so an
  error anywhere is an error of the condition.
-/

namespace Aviso

open Text Json

/-- What comparisons may look at. -/
structure Scope where
  context : Context
  event : Option Event
  entity : Option Entity
deriving Repr

/-- Only the modification of a ticket has a past to compare with. -/
def Scope.hasPast (scope : Scope) : Bool :=
  scope.event == some .modification && scope.entity == some .ticket

/-- The verdict of a comparison, and how it joins what stands before. -/
structure Verdict where
  holds : Bool
  connective : Option Connective
deriving Repr, DecidableEq

/-- Whether some field has the value. -/
def hasValue (fields : Members) (value : Value) : Bool :=
  fields.any fun field => field.2.equal value

/-- A question about two texts; of other values it is false. -/
def ofTexts (holds : List Char → List Char → Bool) : Value → Value → Bool
  | .string left, .string right => holds left.toList right.toList
  | _, _ => false

/-- The verdict of a comparator on two values.  The ticket before the event is
asked as a whole: whichever field holds a value counts. -/
def Comparator.compare (comparator : Comparator) (context : Context) (left right : Value) :
    Except Failure Bool :=
  match comparator with
  | equal => .ok (left.equal right)
  | notEqual => .ok (!left.equal right)
  | changedTo =>
    match context.ticketBefore? with
    | none => .error .missingPast
    | some fields => .ok (left.equal right && !hasValue fields right)
  | changedIs =>
    match context.ticketBefore? with
    | none => .error .missingPast
    | some fields =>
      match right with
      | .bool expected => .ok (expected == !hasValue fields left)
      | _ => .ok false
  | blankIs =>
    match left, right with
    | .string text, .bool expected => .ok (text.isEmpty == expected)
    | _, _ => .ok false
  | contains => .ok (ofTexts (fun text part => (cut? part text).isSome) left right)
  | startsWith => .ok (ofTexts (fun text part => (after? part text).isSome) left right)
  | endsWith =>
    .ok (ofTexts (fun text part => (after? part.reverse text.reverse).isSome) left right)

/-- The value of an operand. -/
def operandValue (expression : String) (context : Context) : Except Failure Value :=
  (Expression.value expression.toList context).mapError .expression

/-- The verdict of a comparison.  Where there is no past, a question about it is
false before its operands are looked at. -/
def Comparison.judge (comparison : Comparison) (scope : Scope) : Except Failure Verdict :=
  if comparison.comparator.asksPast && !scope.hasPast then
    .ok { holds := false, connective := comparison.connective }
  else do
    let left ← operandValue comparison.left scope.context
    let right ← operandValue comparison.right scope.context
    let holds ← comparison.comparator.compare scope.context left right
    return { holds, connective := comparison.connective }

namespace Verdict

/-- Joins a verdict to the verdict of all before it. -/
def join (before : Bool) (verdict : Verdict) : Bool :=
  match verdict.connective with
  | some .or => before || verdict.holds
  | some .and | none => before && verdict.holds

/-- Joins verdicts from left to right.  The connective of the first one plays no part. -/
def joinAll : List Verdict → Except Failure Bool
  | [] => .error .emptyCondition
  | first :: others => .ok (others.foldl join first.holds)

end Verdict

/-- The verdict of a condition. -/
def Condition.judge (comparisons : List Comparison) (scope : Scope) : Except Failure Bool := do
  let verdicts ← comparisons.mapM fun comparison => comparison.judge scope
  Verdict.joinAll verdicts

end Aviso
