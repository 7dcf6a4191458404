import Aviso.Json.Read
import Aviso.Text.Blank

/-!
# Literals

An expression can be a value written out: a text between two quotes of one kind,
a truth word in any case, or a decimal number.  A whole number that fits 64 bits
with a sign is an integer, and any other number the nearest binary64 number, if
that is finite.
-/

namespace Aviso

open Text Json

/-- The two truth words. -/
def trueWord : String := "VERDADERO"

def falseWord : String := "FALSO"

namespace Literal

/-- The text between the two quotes that enclose an expression. -/
def insideQuotes? : List Char → Option (List Char)
  | [] => none
  | quote :: text =>
    if (quote = '\'' || quote = '"') && text.getLast? == some quote then some text.dropLast
    else none

/-- Whether the text is the word but for the case of the letters A to Z. -/
def isWord (word : String) (text : List Char) : Bool :=
  text.map Char.toLower == word.toList.map Char.toLower

/-- The digits behind a point, of which there may be none. -/
def fraction : List Char → List Char × List Char
  | '.' :: text => (text.takeWhile Char.isDigit, text.dropWhile Char.isDigit)
  | text => ([], text)

/-- The magnitude that a text writes with digits, and with a point and an
exponent or without them. -/
def magnitude? (text : List Char) : Option Decimal := do
  let (whole, text) ← readDigits? text
  let (fraction, text) := fraction text
  let (exponent, text) ← readExponent? text
  if text.isEmpty then
    some {
      digits := digitsValue (whole ++ fraction)
      exponent := exponent.getD 0 - fraction.length }
  else none

/-- The integer that a text of digits writes behind its sign, if it fits. -/
def integer? (negative : Bool) (text : List Char) : Option Int :=
  let magnitude := digitsValue text
  if !text.all Char.isDigit then none
  else if negative then if magnitude ≤ Nat.pow 2 63 then some (-(magnitude : Int)) else none
  else if magnitude < Nat.pow 2 63 then some magnitude else none

/-- A number behind its sign. -/
def unsigned? (negative : Bool) (text : List Char) : Option Number :=
  if !text.head?.any Char.isDigit then none
  else match integer? negative text with
    | some value => some (.integer value)
    | none => do
      let magnitude ← magnitude? text
      let nearest ← Binary64.ofDecimal? negative magnitude
      return .binary64 nearest

def number? : List Char → Option Number
  | '-' :: text => unsigned? true text
  | text => unsigned? false text

end Literal

/-- The value of a literal, if the text is one. -/
def literal? (text : List Char) : Option Value :=
  let text := trim text
  match Literal.insideQuotes? text with
  | some inside => some (.string (String.ofList inside))
  | none =>
    if Literal.isWord trueWord text then some (.bool true)
    else if Literal.isWord falseWord text then some (.bool false)
    else (Literal.number? text).map .number

end Aviso
