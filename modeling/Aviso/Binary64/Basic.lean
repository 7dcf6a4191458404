/-!
# Finite numbers of the binary64 format

A finite binary64 number is a sign and a code: the bits below the sign, read as
a natural number.  Codes order the magnitudes, and `units` gives the magnitude
of a code as a multiple of `2 ^ -1074`, the smallest positive number of the
format.  All arithmetic here is exact arithmetic on natural numbers.

* `nearestCode` rounds a quotient to the nearest magnitude, a tie to the even
  code;
* `Binary64.ofDecimal?` is the number nearest to a decimal text's value.
-/

namespace Aviso

/-- The first code that stands for no finite magnitude. -/
def infiniteCode : Nat := 2047 * Nat.pow 2 52

/-- A finite number of the binary64 format. -/
structure Binary64 where
  negative : Bool
  code : Nat
  finite : code < infiniteCode := by decide
deriving Repr, DecidableEq

/-- How many units there are in one. -/
def unitsPerOne : Nat := Nat.pow 2 1074

/-- The magnitude of a code in units of `2 ^ -1074`. -/
def units (code : Nat) : Nat :=
  let exponent := code / Nat.pow 2 52
  let fraction := code % Nat.pow 2 52
  if exponent = 0 then fraction else (Nat.pow 2 52 + fraction) * Nat.pow 2 (exponent - 1)

/-- The quotient rounded to a natural number, a half to the even neighbour. -/
def roundQuotient (num den : Nat) : Nat :=
  let floor := num / den
  let twice := 2 * (num % den)
  if twice < den || (twice == den && floor % 2 == 0) then floor else floor + 1

/-- The code whose magnitude is nearest to `num / den` units.  A magnitude of 53
bits or fewer stands on the finest grid; each further bit doubles the step, and
rounding up to a power of two moves to the next code by itself. -/
def nearestCode (num den : Nat) : Nat :=
  let shift := Nat.log2 (num / den) - 52
  shift * Nat.pow 2 52 + roundQuotient num (den * Nat.pow 2 shift)

/-- The magnitude `digits * 10 ^ exponent`. -/
structure Decimal where
  digits : Nat
  exponent : Int
deriving Repr, DecidableEq

/-- How many decimal digits a natural number has; zero has one. -/
def digitCount (n : Nat) : Nat :=
  (Nat.toDigits 10 n).length

namespace Binary64

/-- The number of a sign and a code, unless the code is too large. -/
def ofCode? (negative : Bool) (code : Nat) : Option Binary64 :=
  if finite : code < infiniteCode then some { negative, code, finite } else none

/-- The value as a multiple of `2 ^ -1074`; both zeros have the value zero. -/
def signedUnits (x : Binary64) : Int :=
  if x.negative then -(units x.code : Int) else units x.code

/-- The number nearest to a decimal, unless it is out of range.  Magnitudes from
`10 ^ 310` are too large and magnitudes below `10 ^ -330` round to zero, so those
are settled before any power is computed. -/
def ofDecimal? (negative : Bool) (d : Decimal) : Option Binary64 :=
  let places := (digitCount d.digits : Int) + d.exponent
  if d.digits = 0 || places < -330 then ofCode? negative 0
  else if 310 < places then none
  else if 0 ≤ d.exponent then
    ofCode? negative
      (nearestCode (d.digits * Nat.pow 10 d.exponent.toNat * unitsPerOne) 1)
  else
    ofCode? negative
      (nearestCode (d.digits * unitsPerOne) (Nat.pow 10 (-d.exponent).toNat))

end Binary64

end Aviso
