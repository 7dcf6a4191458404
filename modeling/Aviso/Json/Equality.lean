import Aviso.Json.Value

/-!
# Equality of JSON values

Two numbers at the top of a value are equal when the binary64 numbers nearest to
them are, so an integer can equal a binary64 number.  Numbers inside arrays and
objects are equal only within their kind.  Values of different types are never
equal.
-/

namespace Aviso.Json

/-- Equality of numbers of one kind; the two zeros are equal. -/
def Number.same : Number → Number → Bool
  | integer left, integer right => left == right
  | binary64 left, binary64 right => left.signedUnits == right.signedUnits
  | _, _ => false

mutual

/-- Equality of values that tells the two kinds of numbers apart. -/
def Value.same : Value → Value → Bool
  | .null, .null => true
  | .bool left, .bool right => left == right
  | .number left, .number right => left.same right
  | .string left, .string right => left == right
  | .array left, .array right => sameItems left right
  | .object left, .object right => sameMembers left right
  | _, _ => false

def sameItems : List Value → List Value → Bool
  | [], [] => true
  | left :: lefts, right :: rights => left.same right && sameItems lefts rights
  | _, _ => false

def sameMembers : Members → Members → Bool
  | [], [] => true
  | (leftKey, left) :: lefts, (rightKey, right) :: rights =>
    leftKey == rightKey && left.same right && sameMembers lefts rights
  | _, _ => false

end

/-- Equality of two values as operands of a comparison. -/
def Value.equal : Value → Value → Bool
  | .number left, .number right => left.signedUnits == right.signedUnits
  | left, right => left.same right

end Aviso.Json
