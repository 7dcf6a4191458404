import Mathlib.Data.List.Infix
import Aviso.Placeholder
import Aviso.Proofs.Text.Cut

/-!
# Placeholders that are read back

A `Slot` is an expression of which a placeholder is read back as it was written.

* `Placeholder.read?_print`: a placeholder is read up to its nearest closing
  braces.
* `Slot.read?_print`: the placeholder of a slot is read as its expression.
-/

namespace Aviso

open Text

namespace Placeholder

/-- A placeholder whose closing braces are the nearest ones is read as it is
written, without the blanks around its expression. -/
theorem read?_print {expression : List Char}
    (hnearest : ¬ closing <:+: expression ++ ['}']) (behind : List Char) :
    read? (print expression ++ behind) = some (trim expression, behind) := by
  have hcut : cut? closing (expression ++ (closing ++ behind)) = some (expression, behind) :=
    cut?_append (by decide) hnearest behind
  rw [read?, print, List.append_assoc, List.append_assoc, after?_append]
  simp [hcut]

/-- A placeholder begins with a brace. -/
theorem read?_of_ne {c : Char} (hbrace : c ≠ '{') (text : List Char) :
    read? (c :: text) = none := by
  have hopen : after? opening (c :: text) = none := by
    rw [after?_eq_none_iff, opening, List.cons_prefix_cons]
    intro hbegins
    exact hbrace hbegins.1.symm
  rw [read?, hopen]
  rfl

end Placeholder

/-- A trimmed expression that neither holds closing braces nor adds a brace to
those behind it. -/
structure Slot where
  expression : List Char
  trimmed : Trimmed expression
  closing_free : ¬ Placeholder.closing <:+: expression
  open_ended : expression.getLast? ≠ some '}'

namespace Slot

/-- The placeholder of the slot. -/
def print (slot : Slot) : List Char :=
  Placeholder.print slot.expression

theorem nearest (slot : Slot) : ¬ Placeholder.closing <:+: slot.expression ++ ['}'] := by
  rw [List.infix_concat_iff, not_or]
  refine ⟨?_, slot.closing_free⟩
  rw [Placeholder.closing, List.suffix_concat_iff, not_or]
  refine ⟨by simp, ?_⟩
  intro hends
  rcases hends with ⟨front, hfront, hsuffix⟩
  obtain rfl : front = ['}'] := by
    rw [← List.singleton_append] at hfront
    exact (List.append_cancel_right hfront).symm
  rcases hsuffix with ⟨before, hbefore⟩
  apply slot.open_ended
  rw [← hbefore, List.getLast?_append]
  rfl

theorem read?_print (slot : Slot) (behind : List Char) :
    Placeholder.read? (slot.print ++ behind) = some (slot.expression, behind) := by
  rw [print, Placeholder.read?_print slot.nearest, trim_eq_self slot.trimmed]

end Slot

end Aviso
