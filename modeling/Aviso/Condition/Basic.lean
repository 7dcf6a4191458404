import Aviso.Text.Cut

/-!
# Conditions

A condition is a list of comparisons, each joined by its own connective to what
stands before it.  There is neither precedence nor grouping.  This file holds
the parts of a comparison and the words for them.
-/

namespace Aviso

/-- How the two operands of a comparison are compared. -/
inductive Comparator where
  | equal
  | notEqual
  /-- The left operand now has the value of the right one, and no field had it before. -/
  | changedTo
  /-- Whether no field had the value of the left operand before. -/
  | changedIs
  /-- Whether the left operand is the empty text. -/
  | blankIs
  | contains
  | startsWith
  | endsWith
deriving Repr, DecidableEq

namespace Comparator

def all : List Comparator :=
  [equal, notEqual, changedTo, changedIs, blankIs, contains, startsWith, endsWith]

/-- The canonical spelling. -/
def keyword : Comparator → String
  | equal => "ES IGUAL QUE"
  | notEqual => "ES DIFERENTE DE"
  | changedTo => "CAMBIÓ A"
  | changedIs => "CAMBIÓ ES"
  | blankIs => "VACÍO ES"
  | contains => "CONTIENE"
  | startsWith => "EMPIEZA CON"
  | endsWith => "TERMINA CON"

/-- The other spellings that are read. -/
def variants : Comparator → List String
  | notEqual => ["NO ES IGUAL QUE"]
  | changedTo => ["CAMBIO A"]
  | changedIs => ["CAMBIO ES"]
  | blankIs => ["VACIO ES"]
  | equal | contains | startsWith | endsWith => []

/-- Every spelling, the canonical one first. -/
def keywords (comparator : Comparator) : List String :=
  comparator.keyword :: comparator.variants

/-- The comparator of which a text is a spelling. -/
def ofKeyword? (text : String) : Option Comparator :=
  all.find? fun comparator => comparator.keywords.contains text

/-- Every spelling with its comparator; none begins with another. -/
def byKeyword : List (List Char × Comparator) :=
  all.flatMap fun comparator =>
    comparator.keywords.map fun keyword => (keyword.toList, comparator)

/-- Whether the comparator asks what the ticket was before. -/
def asksPast : Comparator → Bool
  | changedTo | changedIs => true
  | equal | notEqual | blankIs | contains | startsWith | endsWith => false

end Comparator

/-- Joins the verdict of a comparison to the verdict of all before it. -/
inductive Connective where
  | and
  | or
deriving Repr, DecidableEq

namespace Connective

def keyword : Connective → Char
  | and => 'Y'
  | or => 'O'

def ofKeyword? (c : Char) : Option Connective :=
  [and, or].find? fun connective => connective.keyword == c

@[simp] theorem ofKeyword?_keyword (connective : Connective) :
    ofKeyword? connective.keyword = some connective := by
  cases connective <;> decide

end Connective

/-- One comparison of two expressions.  Only the first one of a condition has no
connective. -/
structure Comparison where
  left : String
  comparator : Comparator
  right : String
  connective : Option Connective
deriving Repr, DecidableEq

/-- Why a text is no condition. -/
inductive ConditionError where
  /-- A segment is anything but two operands with a comparator between them. -/
  | malformedSegment (segment : String)
deriving Repr, DecidableEq

def ConditionError.message : ConditionError → String
  | malformedSegment segment =>
    "Condition segment '" ++ segment ++ "' is not <expr> <comparator> <expr>"

end Aviso
