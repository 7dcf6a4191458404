import Aviso.Binary64.Basic

/-!
# Shortest decimal digits

The decimal text of a binary64 number has as few digits as read back to the same
number, and of those with that many digits the nearest to the number.

The reals that round to a code lie between the midpoints to its neighbours, the
midpoints included exactly when the code is even.  For each number of digits in
turn the two grid points around the value are tested; seventeen digits always
suffice.
-/

namespace Aviso

namespace Decimal

/-- Numerator and denominator of the decimal, in units of `2 ^ -1074`. -/
def ratio (d : Decimal) : Nat × Nat :=
  (d.digits * Nat.pow 10 d.exponent.toNat * unitsPerOne, Nat.pow 10 (-d.exponent).toNat)

/-- Whether the decimal rounds to the code. -/
def readsBack (code : Nat) (d : Decimal) : Bool :=
  let (num, den) := d.ratio
  let low := (units (code - 1) + units code) * den
  let high := (units code + units (code + 1)) * den
  if code % 2 = 0 then low ≤ 2 * num && 2 * num ≤ high else low < 2 * num && 2 * num < high

/-- How far the decimal is from the magnitude of a code, times the denominator. -/
def distance (code : Nat) (d : Decimal) : Nat :=
  let (num, den) := d.ratio
  (num - units code * den) + (units code * den - num)

/-- The largest decimal with this exponent that is not above the code's magnitude. -/
def below (code : Nat) (exponent : Int) : Decimal :=
  { digits := units code * Nat.pow 10 (-exponent).toNat /
      (Nat.pow 10 exponent.toNat * unitsPerOne)
    exponent }

/-- The next decimal with the same exponent. -/
def next (d : Decimal) : Decimal :=
  { d with digits := d.digits + 1 }

/-- Of the two decimals around the code's magnitude the nearer one that reads
back; of two equally near ones the even one. -/
def onGrid? (code : Nat) (exponent : Int) : Option Decimal :=
  let low := below code exponent
  let high := low.next
  match readsBack code low, readsBack code high with
  | false, false => none
  | true, false => some low
  | false, true => some high
  | true, true =>
    if distance code low < distance code high then some low
    else if distance code high < distance code low then some high
    else if low.digits % 2 = 0 then some low else some high

end Decimal

/-- The exponent of the first decimal digit of a positive magnitude. -/
def leadingExponent (code : Nat) : Int :=
  (digitCount (units code * Nat.pow 10 330 / unitsPerOne) : Int) - 331

/-- The shortest decimal of a positive magnitude. -/
def shortestDecimal (code : Nat) : Decimal :=
  let exponents := (List.range 17).map fun (more : Nat) => leadingExponent code - more
  (exponents.findSome? (Decimal.onGrid? code)).getD (Decimal.below code (leadingExponent code - 17))

end Aviso
