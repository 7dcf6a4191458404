import Aviso.Binary64.Shortest

/-!
# The text of a binary64 number

Numbers whose first digit stands for `10 ^ -5` up to `10 ^ 15` are written
positionally and always with a point; all others with one digit before the point
and a signed exponent.
-/

namespace Aviso

/-- The digits of a decimal without the zeros at their end. -/
def significantDigits (d : Decimal) : List Char :=
  let digits := Nat.toDigits 10 d.digits
  (digits.reverse.dropWhile (· == '0')).reverse

/-- Digits, the first of which stands for `10 ^ exponent`, as a positional text. -/
def positional (digits : List Char) (exponent : Int) : List Char :=
  if exponent < 0 then
    '0' :: '.' :: List.replicate ((-exponent).toNat - 1) '0' ++ digits
  else
    let whole := exponent.toNat + 1
    if digits.length ≤ whole then
      digits ++ List.replicate (whole - digits.length) '0' ++ ['.', '0']
    else
      digits.take whole ++ '.' :: digits.drop whole

/-- Digits, the first of which stands for `10 ^ exponent`, with an exponent. -/
def scientific (digits : List Char) (exponent : Int) : List Char :=
  let fraction := if digits.length ≤ 1 then [] else '.' :: digits.drop 1
  let sign := if exponent < 0 then '-' else '+'
  digits.take 1 ++ fraction ++ 'e' :: sign :: Nat.toDigits 10 exponent.natAbs

namespace Binary64

/-- The text of the magnitude. -/
def printMagnitude (code : Nat) : List Char :=
  if code = 0 then ['0', '.', '0']
  else
    let decimal := shortestDecimal code
    let digits := significantDigits decimal
    let exponent := (digitCount decimal.digits : Int) - 1 + decimal.exponent
    if -5 ≤ exponent ∧ exponent ≤ 15 then positional digits exponent
    else scientific digits exponent

/-- The text of the number, which reads back to it. -/
def print (x : Binary64) : List Char :=
  if x.negative then '-' :: printMagnitude x.code else printMagnitude x.code

/-- The number as a whole number, if it is one and below `10 ^ 15` in magnitude. -/
def whole? (x : Binary64) : Option Int :=
  if units x.code % unitsPerOne = 0 ∧ units x.code < Nat.pow 10 15 * unitsPerOne then
    let whole : Nat := units x.code / unitsPerOne
    some (if x.negative then -(whole : Int) else whole)
  else none

end Binary64

end Aviso
