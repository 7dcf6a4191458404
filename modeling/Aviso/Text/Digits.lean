/-!
# Decimal digits

The number that the digits `0` to `9` write, most significant digit first.
-/

namespace Aviso.Text

/-- The number that one digit writes. -/
def digitValue (c : Char) : Nat :=
  c.toNat - '0'.toNat

/-- The number that digits write behind the digits of another number. -/
def appendDigits (number : Nat) (digits : List Char) : Nat :=
  digits.foldl (fun value c => 10 * value + digitValue c) number

/-- The number that digits write. -/
def digitsValue (digits : List Char) : Nat :=
  appendDigits 0 digits

/-- Appends digits to a number for as long as it stays below the bound, and
returns it with the digits that are left. -/
def appendBelow (bound number : Nat) : List Char → Nat × List Char
  | [] => (number, [])
  | c :: digits =>
    let next := 10 * number + digitValue c
    if next < bound then appendBelow bound next digits else (number, c :: digits)

end Aviso.Text
