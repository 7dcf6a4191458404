import Aviso.Binary64.Stepwise
import Aviso.Json.Value
import Aviso.Text.Digits

/-!
# JSON texts as they are written

A document keeps what a JSON text says and a value cannot hold: repeated keys,
numbers of any size, and strings with half of a surrogate pair.  A reader that
ignores a part of a text, such as an unknown field, asks nothing more of it than
that it is a document.

* `Numeral.number?` is the number of a numeral by one of two roundings;
* `Document.value?` is the value of a document, if it has one;
* `Document.depth` counts how deep its brackets nest.
-/

namespace Aviso.Json

/-- A number as it is written. -/
structure Numeral where
  negative : Bool
  /-- The digits before the point. -/
  whole : List Char
  /-- The digits behind the point, or none where no point stands. -/
  fraction : List Char
  /-- The power of ten, where one is written. -/
  exponent : Option Int
deriving Repr, DecidableEq

/-- A JSON text as a tree.  A string that no text of characters is equal to, for
half of a surrogate pair in it, is `none`. -/
inductive Document where
  | null
  | bool (value : Bool)
  | number (numeral : Numeral)
  | string (text : Option String)
  | array (items : List Document)
  | object (members : List (Option String × Document))
deriving Repr

/-- How a numeral is rounded to a binary64 number. -/
inductive Rounding where
  /-- To the nearest number. -/
  | nearest
  /-- By steps, from a significand of 64 bits. -/
  | stepwise
deriving Repr, DecidableEq

namespace Numeral

open Text

/-- Whether neither a fraction nor an exponent is written. -/
def integral (numeral : Numeral) : Bool :=
  numeral.fraction.isEmpty && numeral.exponent.isNone

/-- The magnitude that is written. -/
def magnitude (numeral : Numeral) : Decimal :=
  { digits := digitsValue (numeral.whole ++ numeral.fraction)
    exponent := numeral.exponent.getD 0 - numeral.fraction.length }

/-- The magnitude with a significand of 64 bits: digits are dropped where they no
longer fit, first those before the point and then those behind it. -/
def significand (numeral : Numeral) : Decimal :=
  let (whole, dropped) := appendBelow (Nat.pow 2 64) 0 numeral.whole
  let (digits, ignored) := appendBelow (Nat.pow 2 64) whole numeral.fraction
  { digits
    exponent :=
      numeral.exponent.getD 0 + dropped.length - (numeral.fraction.length - ignored.length) }

/-- The binary64 number of a numeral, unless it is out of range. -/
def binary64? (rounding : Rounding) (numeral : Numeral) : Option Binary64 :=
  match rounding with
  | .nearest => Binary64.ofDecimal? numeral.negative numeral.magnitude
  | .stepwise => Binary64.stepwise? numeral.negative numeral.significand

/-- The number of a numeral, unless it is out of range.  A whole number without
fraction and exponent that fits 64 bits, signed or not, is an integer; a minus
sign before zero makes it the negative zero. -/
def number? (rounding : Rounding) (numeral : Numeral) : Option Number :=
  let magnitude := digitsValue numeral.whole
  let rounded := (numeral.binary64? rounding).map Number.binary64
  if !numeral.integral then rounded
  else if numeral.negative then
    if 0 < magnitude && magnitude ≤ Nat.pow 2 63 then some (.integer (-(magnitude : Int))) else rounded
  else if magnitude < Nat.pow 2 64 then some (.integer magnitude) else rounded

end Numeral

mutual

/-- The value of a document: of a repeated key the last member counts. -/
def Document.value? (rounding : Rounding) : Document → Option Value
  | .null => some .null
  | .bool value => some (.bool value)
  | .number numeral => (numeral.number? rounding).map .number
  | .string text => text.map .string
  | .array items => (itemValues? rounding items).map .array
  | .object members =>
    (memberValues? rounding members).map fun members => .object (Members.ofList members)

def itemValues? (rounding : Rounding) : List Document → Option (List Value)
  | [] => some []
  | item :: items => do
    let value ← item.value? rounding
    let values ← itemValues? rounding items
    return value :: values

def memberValues? (rounding : Rounding) : List (Option String × Document) → Option Members
  | [] => some []
  | (key, document) :: members => do
    let key ← key
    let value ← document.value? rounding
    let values ← memberValues? rounding members
    return (key, value) :: values

end

mutual

/-- How many brackets are open at once at most. -/
def Document.depth : Document → Nat
  | .array items => itemsDepth items + 1
  | .object members => membersDepth members + 1
  | .null | .bool _ | .number _ | .string _ => 0

def itemsDepth : List Document → Nat
  | [] => 0
  | item :: items => max item.depth (itemsDepth items)

def membersDepth : List (Option String × Document) → Nat
  | [] => 0
  | (_, document) :: members => max document.depth (membersDepth members)

end

end Aviso.Json
