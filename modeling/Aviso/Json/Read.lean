import Aviso.Json.Document

/-!
# Reading JSON

The grammar of RFC 8259: no comments, no trailing commas, no text behind the
value, and blanks are the space, the tab and the two line breaks.

Every reader returns what it read with the text behind it.  Values nest, so
their readers carry a budget of steps, which `Document.read?` takes from the
length of the text.
-/

namespace Aviso.Json

open Text

/-- The text from its first character that is no blank between tokens. -/
def skipSpace (text : List Char) : List Char :=
  text.dropWhile fun c => c == ' ' || c == '\t' || c == '\n' || c == '\r'

/-! ## Numbers -/

/-- One digit or more. -/
def readDigits? (text : List Char) : Option (List Char × List Char) :=
  let digits := text.takeWhile Char.isDigit
  if digits.isEmpty then none else some (digits, text.dropWhile Char.isDigit)

/-- Digits without a leading zero. -/
def readWhole? (text : List Char) : Option (List Char × List Char) := do
  let (digits, behind) ← readDigits? text
  if digits.head? == some '0' && digits.length ≠ 1 then none else some (digits, behind)

/-- The digits behind a point, or none where no point stands. -/
def readFraction? : List Char → Option (List Char × List Char)
  | '.' :: text => readDigits? text
  | text => some ([], text)

/-- The power of ten behind an `e`, if one stands there. -/
def readExponent? : List Char → Option (Option Int × List Char)
  | letter :: text =>
    if letter == 'e' || letter == 'E' then
      match text with
      | '-' :: text =>
        (readDigits? text).map fun (digits, behind) => (some (-(digitsValue digits : Int)), behind)
      | '+' :: text =>
        (readDigits? text).map fun (digits, behind) => (some (digitsValue digits : Int), behind)
      | text =>
        (readDigits? text).map fun (digits, behind) => (some (digitsValue digits : Int), behind)
    else some (none, letter :: text)
  | [] => some (none, [])

/-- A number behind its sign. -/
def readUnsigned? (negative : Bool) (text : List Char) : Option (Numeral × List Char) := do
  let (whole, text) ← readWhole? text
  let (fraction, text) ← readFraction? text
  let (exponent, behind) ← readExponent? text
  return ({ negative, whole, fraction, exponent }, behind)

def readNumeral? : List Char → Option (Numeral × List Char)
  | '-' :: text => readUnsigned? true text
  | text => readUnsigned? false text

/-! ## Strings -/

/-- What a string is written with: a character, or a 16-bit code in an escape. -/
inductive StringUnit where
  | char (c : Char)
  | code (n : Nat)
deriving Repr, DecidableEq

def hexDigit? (c : Char) : Option Nat :=
  if c.isDigit then some (c.toNat - '0'.toNat)
  else if 'a' ≤ c ∧ c ≤ 'f' then some (c.toNat - 'a'.toNat + 10)
  else if 'A' ≤ c ∧ c ≤ 'F' then some (c.toNat - 'A'.toNat + 10)
  else none

/-- The code of four hexadecimal digits. -/
def hexCode? (a b c d : Char) : Option Nat := do
  return (((← hexDigit? a) * 16 + (← hexDigit? b)) * 16 + (← hexDigit? c)) * 16 + (← hexDigit? d)

/-- The character of an escape of one letter. -/
def escape? : Char → Option Char
  | '"' => some '"'
  | '\\' => some '\\'
  | '/' => some '/'
  | 'b' => some '\x08'
  | 'f' => some '\x0c'
  | 'n' => some '\n'
  | 'r' => some '\r'
  | 't' => some '\t'
  | _ => none

/-- The units of a string behind its opening quote. -/
def readUnits? : List Char → Option (List StringUnit × List Char)
  | [] => none
  | '"' :: text => some ([], text)
  | '\\' :: 'u' :: a :: b :: c :: d :: text => do
    let code ← hexCode? a b c d
    let (units, behind) ← readUnits? text
    return (.code code :: units, behind)
  | '\\' :: letter :: text => do
    let c ← escape? letter
    let (units, behind) ← readUnits? text
    return (.char c :: units, behind)
  | c :: text =>
    if c.toNat < 0x20 || c == '\\' then none
    else do
      let (units, behind) ← readUnits? text
      return (.char c :: units, behind)

/-- The characters of units: two codes of a surrogate pair are one character, and
half of a pair is none. -/
def decodeUnits? : List StringUnit → Option (List Char)
  | [] => some []
  | .char c :: units => (decodeUnits? units).map (c :: ·)
  | .code high :: units =>
    if 0xD800 ≤ high && high < 0xDC00 then
      match units with
      | .code low :: units =>
        if 0xDC00 ≤ low && low < 0xE000 then
          (decodeUnits? units).map
            (Char.ofNat (0x10000 + (high - 0xD800) * 0x400 + (low - 0xDC00)) :: ·)
        else none
      | _ => none
    else if 0xDC00 ≤ high && high < 0xE000 then none
    else (decodeUnits? units).map (Char.ofNat high :: ·)

/-- A string behind its opening quote. -/
def readString? (text : List Char) : Option (Option String × List Char) :=
  (readUnits? text).map fun (units, behind) => ((decodeUnits? units).map String.ofList, behind)

/-! ## Values -/

mutual

/-- A value, with blanks before it. -/
def readValue? : Nat → List Char → Option (Document × List Char)
  | 0, _ => none
  | budget + 1, text =>
    match skipSpace text with
    | 'n' :: 'u' :: 'l' :: 'l' :: behind => some (.null, behind)
    | 't' :: 'r' :: 'u' :: 'e' :: behind => some (.bool true, behind)
    | 'f' :: 'a' :: 'l' :: 's' :: 'e' :: behind => some (.bool false, behind)
    | '"' :: text => (readString? text).map fun (text, behind) => (.string text, behind)
    | '[' :: text =>
      match skipSpace text with
      | ']' :: behind => some (.array [], behind)
      | text => (readItems? budget text).map fun (items, behind) => (.array items, behind)
    | '\x7b' :: text =>
      match skipSpace text with
      | '\x7d' :: behind => some (.object [], behind)
      | text => (readMembers? budget text).map fun (members, behind) => (.object members, behind)
    | text => (readNumeral? text).map fun (numeral, behind) => (.number numeral, behind)

/-- One item or more, and the closing bracket. -/
def readItems? : Nat → List Char → Option (List Document × List Char)
  | 0, _ => none
  | budget + 1, text => do
    let (item, text) ← readValue? budget text
    match skipSpace text with
    | ']' :: behind => some ([item], behind)
    | ',' :: text => (readItems? budget text).map fun (items, behind) => (item :: items, behind)
    | _ => none

/-- One member or more, and the closing brace. -/
def readMembers? : Nat → List Char → Option (List (Option String × Document) × List Char)
  | 0, _ => none
  | budget + 1, text => do
    let (key, text) ← match skipSpace text with
      | '"' :: text => readString? text
      | _ => none
    let text ← match skipSpace text with
      | ':' :: text => some text
      | _ => none
    let (document, text) ← readValue? budget text
    match skipSpace text with
    | '\x7d' :: behind => some ([(key, document)], behind)
    | ',' :: text =>
      (readMembers? budget text).map fun (members, behind) => ((key, document) :: members, behind)
    | _ => none

end

/-- The document that a text is.  Every step of the budget is paid for by a
character, at most two of them by the same one. -/
def Document.read? (text : String) : Option Document := do
  let chars := text.toList
  let (document, behind) ← readValue? (2 * chars.length + 2) chars
  if (skipSpace behind).isEmpty then some document else none

end Aviso.Json
