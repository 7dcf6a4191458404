import Aviso.Condition.Basic
import Aviso.Literal
import Aviso.Placeholder
import Aviso.Text.Scan
import Aviso.Text.Word

/-!
# Tokens of a condition

A segment of a condition is scanned for placeholders, bare literals and
comparators.  Whatever lies between them is passed over.

A bare literal is a quoted text, a number or a truth word.  Numbers and truth
words stand alone: no word character touches them.
-/

namespace Aviso

open Text

/-- A token of a condition. -/
inductive Token where
  /-- The expression of a placeholder. -/
  | placeholder (expression : String)
  /-- A literal as it is written. -/
  | literal (text : String)
  | comparator (comparator : Comparator)
deriving Repr, DecidableEq

namespace Token

/-- The expression of a token that can be an operand. -/
def operand? : Token → Option String
  | placeholder expression => some expression
  | literal text => some text
  | comparator _ => none

/-- Whether the text begins with a word character. -/
def startsWord : List Char → Bool
  | [] => false
  | c :: _ => isWord c

/-- A placeholder on one line. -/
def readPlaceholder? (text : List Char) : Option (List Char × List Char) := do
  let (expression, behind) ← Placeholder.read? text
  if expression.contains '\n' then none else some (expression, behind)

/-- A text up to the next quote of the kind that opens it, both quotes included. -/
def readQuotation? : List Char → Option (List Char × List Char)
  | [] => none
  | quote :: text =>
    if quote = '\'' || quote = '"' then
      (cut? [quote] text).map fun (inside, behind) => (quote :: inside ++ [quote], behind)
    else none

/-- The digits behind a point. -/
def readFraction? : List Char → Option (List Char × List Char)
  | '.' :: text =>
    if (text.takeWhile isDigit).isEmpty then none
    else some (text.takeWhile isDigit, text.dropWhile isDigit)
  | _ => none

/-- Digits with a fraction, if it has one that no word character follows. -/
def readUnsigned? (text : List Char) : Option (List Char × List Char) :=
  let whole := text.takeWhile isDigit
  let behind := text.dropWhile isDigit
  if whole.isEmpty then none
  else match readFraction? behind with
    | none => if startsWord behind then none else some (whole, behind)
    | some (fraction, further) =>
      if startsWord further then some (whole, behind)
      else some (whole ++ '.' :: fraction, further)

/-- A number: a minus sign cuts it off from a word before it. -/
def readNumber? (before : Option Char) : List Char → Option (List Char × List Char)
  | '-' :: text => (readUnsigned? text).map fun (digits, behind) => ('-' :: digits, behind)
  | text => if before.any isWord then none else readUnsigned? text

/-- A truth word. -/
def readTruth? (before : Option Char) (text : List Char) : Option (List Char × List Char) := do
  let words := [trueWord.toList, falseWord.toList]
  let (word, behind) ← afterAny? (words.map fun word => (word, word)) text
  if before.any isWord || startsWord behind then none else some (word, behind)

/-- A bare literal. -/
def readLiteral? (before : Option Char) (text : List Char) : Option (List Char × List Char) :=
  readQuotation? text <|> readNumber? before text <|> readTruth? before text

/-- Reads one token. -/
def read : Reader Token := fun before text =>
  ((readPlaceholder? text).map fun (expression, behind) =>
    (placeholder (String.ofList expression), behind)) <|>
  ((readLiteral? before text).map fun (written, behind) =>
    (literal (String.ofList written), behind)) <|>
  ((afterAny? Comparator.byKeyword text).map fun (found, behind) => (comparator found, behind))

end Token

end Aviso
