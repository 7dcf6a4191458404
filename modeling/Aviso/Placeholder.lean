import Aviso.Text.Blank
import Aviso.Text.Cut

/-!
# Placeholders

A placeholder is an expression between double braces.  It ends at the nearest
closing braces, and blanks around the expression do not count.
-/

namespace Aviso.Placeholder

open Text

def opening : List Char := ['{', '{']

def closing : List Char := ['}', '}']

/-- The expression of the placeholder at the front of a text, with the text behind it. -/
def read? (text : List Char) : Option (List Char × List Char) := do
  let text ← after? opening text
  let (inside, behind) ← cut? closing text
  return (trim inside, behind)

/-- An expression as a placeholder. -/
def print (expression : List Char) : List Char :=
  opening ++ expression ++ closing

end Aviso.Placeholder
