import Aviso.Body
import Aviso.Proofs.Placeholder
import Aviso.Proofs.Results
import Aviso.Proofs.Text.Scan

/-!
# Bodies that are written out

A body is written from parts: words without an opening brace, and placeholders.

* `pieces_text`: the pieces of such a body are those of its parts.
* `fill_eq_map`: a body is filled in piece by piece.
* `fill_text`: filling it in puts what its parts come to one after another, or is
  the error of the first part that has one.
* `fill_print`: a body that is one placeholder is the text of its value.
-/

namespace Aviso.Body

open Text Json

/-- A part of a body. -/
inductive Part where
  | words (text : List Char) (brace_free : '{' ∉ text)
  | value (slot : Slot)

namespace Part

def text : Part → List Char
  | words text _ => text
  | value slot => slot.print

/-- What the part comes to: words stand for themselves, and a placeholder for the
text of its value. -/
def filled (context : Context) : Part → Except ExpressionError (List Char)
  | words text _ => .ok text
  | value slot =>
    (Expression.value slot.expression context).map fun value => value.display.toList

/-- The pieces of the part in a scan for placeholders. -/
def pieces : Part → List (Piece (List Char))
  | words text _ => text.map .plain
  | value slot => [.found slot.expression]

end Part

/-- A scan of a part and of what stands behind it. -/
theorem scanFrom_text (part : Part) (before : Option Char) (behind : List Char) :
    scanFrom (fun _ text => Placeholder.read? text) before 0 (part.text ++ behind) =
      part.pieces ++
        scanFrom (fun _ text => Placeholder.read? text) (lastOf before part.text) 0 behind := by
  cases part with
  | words text hfree =>
    apply scanFrom_silent
    apply silent_of_forall
    intro c hmem _ behind
    apply Placeholder.read?_of_ne
    rintro rfl
    exact hfree hmem
  | value slot => exact scanFrom_of_found (slot.read?_print behind)

theorem scanFrom_flatMap_text (parts : List Part) (before : Option Char) :
    scanFrom (fun _ text => Placeholder.read? text) before 0 (parts.flatMap Part.text) =
      parts.flatMap Part.pieces := by
  induction parts generalizing before with
  | nil => rfl
  | cons part parts ih =>
    rw [List.flatMap_cons, scanFrom_text, ih, List.flatMap_cons]

theorem pieces_text (parts : List Part) :
    pieces (parts.flatMap Part.text) = parts.flatMap Part.pieces :=
  scanFrom_flatMap_text parts none

/-- A text without placeholders stays as it is. -/
theorem mapM_filled_plain (context : Context) (text : List Char) :
    ((text.map Piece.plain).mapM (filled context)).map List.flatten = .ok text := by
  have hplain : (text.map Piece.plain).mapM (filled context) = .ok (text.map fun c => [c]) := by
    rw [mapM_eq_ok_iff, List.forall₂_map_left_iff, List.forall₂_map_right_iff]
    exact List.forall₂_same.mpr fun c _ => rfl
  rw [hplain, Except.map, ← List.flatMap_def, List.flatMap_singleton']

/-- A placeholder alone comes to the text of its value. -/
theorem mapM_filled_found (context : Context) (expression : List Char) :
    ([Piece.found expression].mapM (filled context)).map List.flatten =
      (Expression.value expression context).map fun value => value.display.toList := by
  cases hvalue : Expression.value expression context with
  | ok value =>
    have hfilled : filled context (.found expression) = .ok value.display.toList := by
      rw [filled, hvalue]
      rfl
    rw [mapM_cons_of_ok hfilled]
    simp [Except.map, pure, Except.pure]
  | error error =>
    have hfilled : filled context (.found expression) = .error error := by
      rw [filled, hvalue]
      rfl
    rw [mapM_cons_of_error hfilled]
    rfl

/-- The pieces of a part come to what the part comes to. -/
theorem mapM_filled_pieces (context : Context) (part : Part) :
    (part.pieces.mapM (filled context)).map List.flatten = part.filled context := by
  cases part with
  | words text _ => exact mapM_filled_plain context text
  | value slot => exact mapM_filled_found context slot.expression

/-- A body is what its pieces come to, one behind another. -/
theorem fill_eq_map (body : String) (context : Context) :
    fill body context =
      (((pieces body.toList).mapM (filled context)).map List.flatten).map String.ofList := by
  rw [fill]
  cases (pieces body.toList).mapM (filled context) <;> rfl

/-- A body that is written from parts is filled in part by part. -/
theorem fill_text (parts : List Part) (context : Context) :
    fill (String.ofList (parts.flatMap Part.text)) context =
      (parts.mapM (Part.filled context)).map fun texts => String.ofList texts.flatten := by
  rw [fill_eq_map, String.toList_ofList, pieces_text,
    mapM_flatMap_flatten (mapM_filled_pieces context)]
  cases parts.mapM (Part.filled context) <;> rfl

/-- A body that is one placeholder is the text of its value. -/
theorem fill_print (slot : Slot) (context : Context) :
    fill (String.ofList slot.print) context =
      (Expression.value slot.expression context).map Value.display := by
  have hfill := fill_text [Part.value slot] context
  rw [List.flatMap_singleton, Part.text] at hfill
  rw [hfill, List.mapM_cons, List.mapM_nil, Part.filled]
  cases Expression.value slot.expression context <;>
    simp [Except.map, bind, Except.bind, pure, Except.pure]

end Aviso.Body
