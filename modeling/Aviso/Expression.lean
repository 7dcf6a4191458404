import Aviso.Context
import Aviso.Literal

/-!
# The value of an expression

An expression is a literal, or a path: a root and segments with points between
them, each of which names a member of an object or an item of an array.  There
are no default values, so a path that leads nowhere is an error.

* `Path.follow` walks the segments of a path from a value;
* `Path.value` starts it at the root that the path names;
* `Expression.value` tells literals and paths apart.
-/

namespace Aviso

open Text Json

/-- Why an expression has no value. -/
inductive ExpressionError where
  | empty
  | unknownRoot (name : String)
  /-- The context holds nothing under the root. -/
  | missingRoot (root : Root)
  /-- The first segment of the path that names nothing. -/
  | missingProperty (path segment : String)
deriving Repr, DecidableEq

def ExpressionError.message : ExpressionError → String
  | empty => "Empty placeholder expression"
  | unknownRoot name => "Unknown context root '" ++ name ++ "'"
  | missingRoot root => "Context root '" ++ root.name ++ "' was not supplied"
  | missingProperty path segment =>
    "Property '" ++ segment ++ "' is undefined in path '" ++ path ++ "'"

namespace Path

/-- The segments of a path: the first one, and those behind a point. -/
def segments : List Char → List Char × List (List Char)
  | [] => ([], [])
  | c :: text =>
    let (first, others) := segments text
    if c = '.' then ([], first :: others) else (c :: first, others)

/-- The index that a segment writes, with or without a plus sign. -/
def index? (segment : List Char) : Option Nat :=
  let digits := match segment with
    | '+' :: digits => digits
    | digits => digits
  if digits.isEmpty || !digits.all Char.isDigit then none else some (digitsValue digits)

/-- What a segment names in a value. -/
def child? (value : Value) (segment : List Char) : Option Value :=
  match value with
  | .object members => members.lookup (String.ofList segment)
  | .array items => do items[← index? segment]?
  | _ => none

/-- Follows the segments of a path from a value. -/
def follow (path : List Char) : Value → List (List Char) → Except ExpressionError Value
  | value, [] => .ok value
  | value, segment :: segments =>
    match child? value segment with
    | some child => follow path child segments
    | none => .error (.missingProperty (String.ofList path) (String.ofList segment))

/-- The value that a path leads to. -/
def value (path : List Char) (context : Context) : Except ExpressionError Value :=
  let (first, others) := segments path
  match Root.ofName? (String.ofList first) with
  | none => .error (.unknownRoot (String.ofList first))
  | some root =>
    match context.get? root with
    | none => .error (.missingRoot root)
    | some top => follow path top others

end Path

/-- The value of an expression: blanks around it do not count, and a literal is
never taken for a path. -/
def Expression.value (expression : List Char) (context : Context) :
    Except ExpressionError Value :=
  let expression := trim expression
  if expression.isEmpty then .error .empty
  else match literal? expression with
    | some value => .ok value
    | none => Path.value expression context

end Aviso
