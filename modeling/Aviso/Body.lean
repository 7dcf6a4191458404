import Aviso.Expression
import Aviso.Json.Print
import Aviso.Placeholder
import Aviso.Text.Scan

/-!
# Filling in a body

Every placeholder of a body is replaced by the text of its value.  One
expression without a value fails the whole body, with the error of the first.
What is put in is not searched for placeholders again.

* `Json.Value.display` is the text of a value in a message;
* `Body.pieces` divides a body into characters and placeholders;
* `Body.fill` puts the values in.
-/

namespace Aviso

open Text Json

/-- The text of a number in a message: a whole binary64 number below `10 ^ 15`
in magnitude is written without a fraction. -/
def Json.Number.display : Number → List Char
  | integer value => (Number.integer value).print
  | binary64 value =>
    match value.whole? with
    | some whole => whole.repr.toList
    | none => value.print

/-- The text of a value in a message.  A string stands for itself, and an array or
an object is written as JSON. -/
def Json.Value.display : Value → String
  | .string text => text
  | .number n => String.ofList n.display
  | value => value.print

namespace Body

/-- The characters and placeholders of a body, in order. -/
def pieces (body : List Char) : List (Piece (List Char)) :=
  scan (fun _ text => Placeholder.read? text) body

/-- The text that a piece becomes. -/
def filled (context : Context) : Piece (List Char) → Except ExpressionError (List Char)
  | .plain c => .ok [c]
  | .found expression =>
    (Expression.value expression context).map fun value => value.display.toList

/-- The body with the text of its value in place of every placeholder. -/
def fill (body : String) (context : Context) : Except ExpressionError String := do
  let texts ← (pieces body.toList).mapM (filled context)
  return String.ofList texts.flatten

end Body

end Aviso
