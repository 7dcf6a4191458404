import Aviso.Binary64.Print
import Aviso.Json.Value

/-!
# Writing JSON

`Value.print` writes a value without spaces, and `Value.printLines` with two
spaces of indentation a level.  Both keep the members of an object in the order
in which the value holds them.  A string is written raw but for the quote, the
backslash and the control characters below the space.
-/

namespace Aviso.Json

/-- A number as JSON writes it. -/
def Number.print : Number → List Char
  | integer value => value.repr.toList
  | binary64 value => value.print

/-- Four hexadecimal digits of a control character. -/
def unitDigits (c : Char) : List Char :=
  let digits := Nat.toDigits 16 c.toNat
  List.replicate (4 - digits.length) '0' ++ digits

/-- A character inside a string. -/
def escaped (c : Char) : List Char :=
  if c = '"' || c = '\\' then ['\\', c]
  else if c = '\x08' then ['\\', 'b']
  else if c = '\x0c' then ['\\', 'f']
  else if c = '\n' then ['\\', 'n']
  else if c = '\r' then ['\\', 'r']
  else if c = '\t' then ['\\', 't']
  else if c.toNat < 0x20 then '\\' :: 'u' :: unitDigits c
  else [c]

/-- A string in its quotes. -/
def printString (text : String) : List Char :=
  '"' :: text.toList.flatMap escaped ++ ['"']

mutual

/-- The value without spaces. -/
def Value.printChars : Value → List Char
  | .null => "null".toList
  | .bool value => (if value then "true" else "false").toList
  | .number value => value.print
  | .string text => printString text
  | .array [] => "[]".toList
  | .array (item :: items) => '[' :: item.printChars ++ printItems items
  | .object [] => "\x7b\x7d".toList
  | .object ((key, value) :: members) =>
    '\x7b' :: printString key ++ ':' :: value.printChars ++ printMembers members

/-- The items behind the first one, and the closing bracket. -/
def printItems : List Value → List Char
  | [] => [']']
  | item :: items => ',' :: item.printChars ++ printItems items

/-- The members behind the first one, and the closing brace. -/
def printMembers : List (String × Value) → List Char
  | [] => ['\x7d']
  | (key, value) :: members =>
    ',' :: printString key ++ ':' :: value.printChars ++ printMembers members

end

/-- The value as a JSON text without spaces. -/
def Value.print (value : Value) : String :=
  String.ofList value.printChars

/-- A line break and the indentation of a level. -/
def newLine (level : Nat) : List Char :=
  '\n' :: List.replicate (2 * level) ' '

mutual

/-- The value on lines of its own, inside the given number of brackets. -/
def Value.printLinesAt (level : Nat) : Value → List Char
  | .array (item :: items) =>
    '[' :: newLine (level + 1) ++ item.printLinesAt (level + 1) ++ printItemLines level items
  | .object ((key, value) :: members) =>
    '\x7b' :: newLine (level + 1) ++ printString key ++ ':' :: ' ' ::
      value.printLinesAt (level + 1) ++ printMemberLines level members
  | .array [] => "[]".toList
  | .object [] => "\x7b\x7d".toList
  | .null => "null".toList
  | .bool value => (if value then "true" else "false").toList
  | .number value => value.print
  | .string text => printString text

def printItemLines (level : Nat) : List Value → List Char
  | [] => newLine level ++ [']']
  | item :: items =>
    ',' :: newLine (level + 1) ++ item.printLinesAt (level + 1) ++ printItemLines level items

def printMemberLines (level : Nat) : List (String × Value) → List Char
  | [] => newLine level ++ ['\x7d']
  | (key, value) :: members =>
    ',' :: newLine (level + 1) ++ printString key ++ ':' :: ' ' ::
      value.printLinesAt (level + 1) ++ printMemberLines level members

end

/-- The value as a JSON text with a line for every item and member. -/
def Value.printLines (value : Value) : String :=
  String.ofList (value.printLinesAt 0)

end Aviso.Json
