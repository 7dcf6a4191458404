import Aviso.Proofs.Condition.Layout

/-!
# Conditions that are written out

A `Wording` is operations with connectives between them: it chooses a spelling for
every comparator, and every operand is a placeholder.

* `Wording.text_eq`: a wording is its comparisons in one layout of many.
* `Wording.parse_text`: so a wording is read as its comparisons.
* `Wording.bracket_free` and `Wording.trimmed_text`: a tag can hold a wording.
-/

namespace Aviso

open Text Condition

/-! ## Operations -/

/-- An expression that a condition can hold: on one line, without opening braces
and without brackets. -/
structure Operand extends Slot where
  line : '\n' ∉ expression
  opening_free : ¬ Placeholder.opening <:+: expression
  bracket_free : expression.all (fun c => !Block.isBracket c) = true

theorem Operand.enclosable (operand : Operand) :
    Enclosable (String.ofList operand.expression) := by
  constructor <;> rw [String.toList_ofList]
  · exact operand.trimmed
  · exact operand.line
  · exact operand.opening_free
  · exact operand.closing_free
  · exact operand.open_ended

/-- Two operands, and a spelling of the comparator between them. -/
structure Operation where
  left : Operand
  comparator : Comparator
  spelling : String
  right : Operand
  spelling_mem : spelling ∈ comparator.keywords

namespace Operation

/-- The comparator with the blanks around it. -/
def middle (operation : Operation) : List Char :=
  ' ' :: (operation.spelling.toList ++ [' '])

def text (operation : Operation) : List Char :=
  operation.left.print ++ (operation.middle ++ operation.right.print)

/-- The comparison that the operation writes. -/
def comparison (operation : Operation) (connective : Option Connective) : Comparison where
  left := String.ofList operation.left.expression
  comparator := operation.comparator
  right := String.ofList operation.right.expression
  connective

/-- The layout in which the operation is written: one blank everywhere, and both
operands between braces. -/
def layout (operation : Operation) : Layout where
  spelling := operation.spelling
  beforeComparator := .single
  behindComparator := .single
  right := .enclosed
  beforeConnective := .single
  behindConnective := .single

theorem fits (operation : Operation) (connective : Option Connective) :
    operation.layout.Fits (operation.comparison connective) where
  spelling := operation.spelling_mem
  left := operation.left.enclosable
  right := operation.right.enclosable

theorem text_layout (operation : Operation) (connective : Option Connective) :
    operation.layout.text (operation.comparison connective) = operation.text := by
  simp [Layout.text, layout, comparison, OperandForm.text, text, middle, Slot.print,
    Spacing.single]

theorem bracket_free (operation : Operation) :
    operation.text.all (fun c => !Block.isBracket c) = true := by
  have hwords : ∀ comparator : Comparator, ∀ spelling ∈ comparator.keywords,
      (' ' :: (spelling.toList ++ [' '])).all (fun c => !Block.isBracket c) = true := by
    intro comparator
    cases comparator <;> decide
  have hprint (operand : Operand) : operand.print.all (fun c => !Block.isBracket c) = true := by
    rw [Slot.print, Placeholder.print, List.all_append, List.all_append, operand.bracket_free]
    decide
  rw [text, middle, List.all_append, List.all_append, hprint, hprint,
    hwords operation.comparator operation.spelling operation.spelling_mem]
  rfl

end Operation

/-! ## Wordings -/

/-- Operations with connectives between them, at least one. -/
structure Wording where
  first : Operation
  others : List (Connective × Operation)

namespace Wording

/-- An operation behind others, with its connective between blanks. -/
def nextText (next : Connective × Operation) : List Char :=
  ' ' :: next.1.keyword :: ' ' :: next.2.text

def text (wording : Wording) : List Char :=
  wording.first.text ++ wording.others.flatMap nextText

/-- The comparisons that the wording writes. -/
def comparisons (wording : Wording) : List Comparison :=
  wording.first.comparison none ::
    wording.others.map fun next => next.2.comparison (some next.1)

theorem bracket_free (wording : Wording) :
    wording.text.all (fun c => !Block.isBracket c) = true := by
  have hnext (next : Connective × Operation) :
      (nextText next).all (fun c => !Block.isBracket c) = true := by
    obtain ⟨connective, operation⟩ := next
    rw [nextText, List.all_cons, List.all_cons, List.all_cons, operation.bracket_free]
    cases connective <;> rfl
  rw [text, List.all_append, wording.first.bracket_free, List.all_flatMap, Bool.true_and,
    List.all_eq_true]
  exact fun next _ => hnext next

/-- The comparison of an operation behind others, with the layout of the operation. -/
def nextPart (next : Connective × Operation) : Comparison × Layout :=
  (next.2.comparison (some next.1), next.2.layout)

theorem laidOut_nextPart (others : List (Connective × Operation)) :
    laidOut (others.map nextPart) = others.flatMap nextText := by
  rw [laidOut, List.flatMap_map]
  apply List.flatMap_congr
  intro next _
  rw [nextPart, Operation.text_layout]
  rfl

theorem fits_parts (wording : Wording) :
    ∀ part ∈ (wording.first.comparison none, wording.first.layout) :: wording.others.map nextPart,
      part.2.Fits part.1 := by
  rw [List.forall_mem_cons, List.forall_mem_map]
  exact ⟨wording.first.fits none, fun next _ => next.2.fits (some next.1)⟩

/-- A wording is its comparisons, each in the layout of its operation. -/
theorem text_eq (wording : Wording) :
    wording.text = wording.first.layout.text (wording.first.comparison none) ++
      laidOut (wording.others.map nextPart) := by
  rw [Operation.text_layout, laidOut_nextPart, text]

/-- A wording begins and ends with a brace. -/
theorem trimmed_text (wording : Wording) : Trimmed wording.text := by
  have htrimmed := trimmed_laidOut fun part hmem => (wording.fits_parts part hmem).legible
  rw [text_eq]
  exact htrimmed

/-- A wording is read as its comparisons. -/
theorem parse_text (wording : Wording) :
    parse (String.ofList wording.text) = .ok wording.comparisons := by
  have hothers : ∀ part ∈ wording.others.map nextPart, part.1.connective ≠ none := by
    rw [List.forall_mem_map]
    intro next _
    exact Option.some_ne_none next.1
  have hcomparisons : wording.comparisons =
      wording.first.comparison none :: (wording.others.map nextPart).map Prod.fst := by
    rw [comparisons, List.map_map]
    rfl
  have hparse := parse_first_laidOut rfl hothers wording.fits_parts
  rw [← hcomparisons, ← text_eq] at hparse
  exact hparse

end Wording

end Aviso
