import Aviso.Block
import Aviso.Condition.Token

/-!
# Reading a condition

A condition is divided into segments at its connectives, and every segment is
one comparison.  A connective counts only between blanks and in front of a
placeholder, so a `Y` or `O` inside other text divides nothing.

* `Condition.segments` divides the text;
* `Condition.parse` reads the comparisons; the first segment that is no
  comparison is the error.
-/

namespace Aviso

open Text

/-- Reads a blank, the letter of a connective and the blanks behind it.  A
placeholder has to follow, and is left to the next segment. -/
def Connective.read : Reader Connective
  | _, blank :: letter :: text => do
    let connective ← Connective.ofKeyword? letter
    let behind := trimStart text
    if isBlank blank && startsBlank text && (after? Placeholder.opening behind).isSome then
      some (connective, behind)
    else none
  | _, _ => none

namespace Condition

/-- The segments of a condition, each with the connective before it. -/
def segments (text : List Char) : List (Option Connective × List Char) :=
  let (first, others) := divide (scan Connective.read text)
  (none, first) :: others.map fun (connective, segment) => (some connective, segment)

/-- The comparison that tokens make: an operand, a comparator and an operand. -/
def ofTokens? (connective : Option Connective) : List Token → Option Comparison
  | [left, .comparator comparator, right] => do
    return {
      left := ← left.operand?
      comparator
      right := ← right.operand?
      connective }
  | _ => none

/-- The comparison of a segment. -/
def readSegment (connective : Option Connective) (segment : List Char) :
    Except ConditionError Comparison :=
  match ofTokens? connective (finds Token.read segment) with
  | some operation => .ok operation
  | none => .error (.malformedSegment (String.ofList (trim segment)))

/-- The text without the word of a conditional tag in front of it. -/
def withoutTag (text : List Char) : List Char :=
  let words := [Tag.orWhen, Tag.when].map fun tag => tag.keyword.toList
  let rests := words.filterMap fun word => after? word text
  match rests.find? fun rest => rest.isEmpty || startsBlank rest with
  | some rest => trimStart rest
  | none => text

/-- The comparisons of a condition.  A blank condition has none. -/
def parse (text : String) : Except ConditionError (List Comparison) :=
  let text := withoutTag (trim text.toList)
  if text.isEmpty then .ok []
  else (segments text).mapM fun (connective, segment) => readSegment connective segment

end Condition

end Aviso
