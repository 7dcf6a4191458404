import Aviso.Binary64.Basic

/-!
# Decimals by steps of binary64 arithmetic

A decimal is read in steps: its digits are rounded to a binary64 number, which is
then multiplied by a power of ten or divided by one.  Powers of ten and every
result are rounded in turn, so the outcome can miss the number nearest to the
decimal by a unit in the last place.
-/

namespace Aviso

/-- The magnitude nearest to a product. -/
def productCode (left right : Nat) : Nat :=
  nearestCode (units left * units right) unitsPerOne

/-- The magnitude nearest to a quotient. -/
def quotientCode (left right : Nat) : Nat :=
  nearestCode (units left * unitsPerOne) (units right)

/-- The magnitude nearest to a natural number. -/
def naturalCode (n : Nat) : Nat :=
  nearestCode (n * unitsPerOne) 1

/-- The exponent of the largest power of ten that is finite. -/
def maximalPower : Nat := 308

/-- A magnitude divided by `10 ^ exponent`: by the largest powers of ten first,
until what is left of the exponent is that of a finite power. -/
def scaledDown (code exponent : Nat) : Nat :=
  if exponent ≤ maximalPower then quotientCode code (naturalCode (Nat.pow 10 exponent))
  else if code = 0 then 0
  else
    scaledDown (quotientCode code (naturalCode (Nat.pow 10 maximalPower)))
      (exponent - maximalPower)
termination_by exponent
decreasing_by simp only [maximalPower] at *; omega

/-- The number that a decimal is by steps, unless it is out of range. -/
def Binary64.stepwise? (negative : Bool) (d : Decimal) : Option Binary64 :=
  let code := naturalCode d.digits
  if d.exponent < 0 then ofCode? negative (scaledDown code (-d.exponent).toNat)
  else if d.exponent ≤ maximalPower then
    ofCode? negative (productCode code (naturalCode (Nat.pow 10 d.exponent.toNat)))
  else if code = 0 then ofCode? negative 0
  else none

end Aviso
