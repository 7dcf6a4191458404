import Mathlib.Data.List.Basic
import Aviso.Proofs.Body

/-!
# Filling in any body

`Placeholder.grammar` says of which placeholders a body consists, and of which gaps
between them, in terms of the text alone: a placeholder is the first opening braces
that have closing ones behind them, up to the nearest closing ones.

* `Placeholder.read?_eq_some_iff` and `Placeholder.read?_eq_none_iff`: what is read
  at the front of a text, in the same terms.
* `fill_of_divides`: a body is filled in placeholder by placeholder.
* `fill_division`: a body has exactly one division, and what it is filled in to, or
  fails with, is read off that division.
* `fill_append_closing`: closing braces divide a body into two that can be filled in
  apart, since no placeholder crosses them.
-/

namespace Aviso

open Text Json

namespace Placeholder

/-- Opening braces at the front of the text, with closing ones somewhere behind them. -/
def Opens (text : List Char) : Prop :=
  ∃ behind, text = opening ++ behind ∧ closing <:+: behind

/-- The closing braces behind the text are the nearest ones. -/
def Nearest (inside : List Char) : Prop :=
  ¬ closing <:+: inside ++ ['}']

theorem read?_eq_some_iff {text expression behind : List Char} :
    read? text = some (expression, behind) ↔
      ∃ inside, text = print inside ++ behind ∧ Nearest inside ∧ expression = trim inside := by
  constructor
  · intro hread
    simp only [read?, Option.bind_eq_bind, Option.bind_eq_some_iff, Prod.exists, Option.pure_def,
      Option.some.injEq, Prod.mk.injEq] at hread
    rcases hread with ⟨rest, hopen, inside, _, hcut, rfl, rfl⟩
    refine ⟨inside, ?_, not_infix_append_of_cut? (by decide) hcut, rfl⟩
    rw [after?_eq_some_iff.mp hopen, append_of_cut? hcut, print]
    simp
  · rintro ⟨inside, rfl, hnearest, rfl⟩
    exact read?_print hnearest behind

theorem opens_print (inside behind : List Char) : Opens (print inside ++ behind) := by
  refine ⟨inside ++ (closing ++ behind), by simp [print], ?_⟩
  exact ⟨inside, behind, by simp⟩

theorem read?_eq_none_iff {text : List Char} : read? text = none ↔ ¬ Opens text := by
  constructor
  · rintro hnone ⟨behind, rfl, hcloses⟩
    cases hcut : cut? closing behind with
    | none => exact (cut?_eq_none_iff (by decide)).mp hcut hcloses
    | some parts => simp [read?, hcut] at hnone
  · intro hopens
    cases hread : read? text with
    | none => rfl
    | some found =>
      obtain ⟨inside, rfl, _⟩ := read?_eq_some_iff.mp hread
      exact absurd (opens_print inside found.2) hopens

theorem print_injective {first second : List Char} (hsame : print first = print second) :
    first = second := by
  simpa [print] using hsame

/-- What can stand in a body: the texts between the braces of placeholders, of which the
closing ones are the nearest. -/
def grammar : Grammar (List Char) where
  Begins := Opens
  Admits := Nearest
  text := print
  text_ne_nil _ := List.cons_ne_nil _ _
  text_injective := print_injective

/-- The reader of placeholders reads them, each as the expression between its braces. -/
theorem readBy_read? : grammar.ReadBy (fun _ text => read? text) trim where
  none_iff := read?_eq_none_iff
  some_iff := read?_eq_some_iff

end Placeholder

namespace Body

/-! ## What a division is filled in to -/

/-- What a gap and the placeholder behind it come to. -/
def filledPart (context : Context) (part : List Char × List Char) :
    Except ExpressionError (List Char) :=
  (Expression.value (trim part.2) context).map fun value => part.1 ++ value.display.toList

theorem mapM_filled_asFind (context : Context) (part : List Char × List Char) :
    ((Placeholder.grammar.asFind trim part).pieces.mapM (filled context)).map List.flatten =
      filledPart context part := by
  rw [Find.pieces, Grammar.asFind, mapM_append_flatten, mapM_filled_plain, mapM_filled_found,
    filledPart]
  cases Expression.value (trim part.2) context <;> rfl

/-- A body is filled in placeholder by placeholder, and its last gap stays. -/
theorem fill_of_divides {body : String} {found : List (List Char × List Char)} {rest : List Char}
    (hdivides : Placeholder.grammar.Divides body.toList found rest) (context : Context) :
    fill body context = (found.mapM (filledPart context)).map fun texts =>
      String.ofList (texts.flatten ++ rest) := by
  have hpieces : ((pieces body.toList).mapM (filled context)).map List.flatten =
      ((found.mapM (filledPart context)).map List.flatten).map fun front => front ++ rest := by
    rw [pieces, scan, (Placeholder.readBy_read?.divided hdivides none).scanFrom_eq,
      mapM_append_flatten, List.flatMap_map, mapM_flatMap_flatten (mapM_filled_asFind context),
      mapM_filled_plain]
    cases found.mapM (filledPart context) <;> rfl
  rw [fill_eq_map, hpieces]
  cases found.mapM (filledPart context) <;> rfl

section Results

variable {context : Context} {part : List Char × List Char}

theorem filledPart_eq_error_iff {error : ExpressionError} :
    filledPart context part = .error error ↔
      Expression.value (trim part.2) context = .error error :=
  map_eq_error_iff

theorem filledPart_eq_ok_iff {text : List Char} :
    filledPart context part = .ok text ↔
      ∃ value, Expression.value (trim part.2) context = .ok value ∧
        part.1 ++ value.display.toList = text :=
  map_eq_ok_iff

theorem exists_filledPart_iff :
    (∃ text, filledPart context part = .ok text) ↔
      ∃ value, Expression.value (trim part.2) context = .ok value := by
  simp [filledPart_eq_ok_iff]

/-- The parts have texts when their expressions have values. -/
theorem forall₂_filledPart_iff {found : List (List Char × List Char)} {texts : List (List Char)} :
    List.Forall₂ (fun part text => filledPart context part = .ok text) found texts ↔
      ∃ values,
        List.Forall₂ (fun part value => Expression.value (trim part.2) context = .ok value)
          found values ∧
        texts = List.zipWith (fun part value => part.1 ++ value.display.toList) found values := by
  induction found generalizing texts with
  | nil => simp
  | cons part found ih =>
    rw [List.forall₂_cons_left_iff]
    constructor
    · rintro ⟨text, others, hpart, hothers, rfl⟩
      obtain ⟨value, hvalue, rfl⟩ := filledPart_eq_ok_iff.mp hpart
      obtain ⟨values, hvalues, rfl⟩ := ih.mp hothers
      exact ⟨value :: values, .cons hvalue hvalues, rfl⟩
    · rintro ⟨values, hvalues, rfl⟩
      obtain ⟨value, others, hvalue, hothers, rfl⟩ := List.forall₂_cons_left_iff.mp hvalues
      exact ⟨_, _, filledPart_eq_ok_iff.mpr ⟨value, hvalue, rfl⟩,
        ih.mpr ⟨others, hothers, rfl⟩, rfl⟩

end Results

/-- A body has exactly one division into placeholders and gaps.  If every expression
has a value, the body is filled in to the gaps as they stand with the texts of the
values between them, and nothing in those texts is looked at again.  Otherwise it is
the error of the first expression without a value. -/
theorem fill_division (body : String) (context : Context) :
    ∃ found rest, Placeholder.grammar.Divides body.toList found rest ∧
      (∀ found' rest', Placeholder.grammar.Divides body.toList found' rest' →
        found' = found ∧ rest' = rest) ∧
      body.toList = found.flatMap (fun part => part.1 ++ Placeholder.print part.2) ++ rest ∧
      (∀ text, fill body context = .ok text ↔
        ∃ values,
          List.Forall₂ (fun part value => Expression.value (trim part.2) context = .ok value)
            found values ∧
          text = String.ofList
            ((List.zipWith (fun part value => part.1 ++ value.display.toList)
              found values).flatten ++ rest)) ∧
      ∀ error, fill body context = .error error ↔
        ∃ passed part later, found = passed ++ part :: later ∧
          (∀ earlier ∈ passed, ∃ value, Expression.value (trim earlier.2) context = .ok value) ∧
          Expression.value (trim part.2) context = .error error := by
  obtain ⟨found, rest, hdivides, hunique, htext⟩ :=
    Placeholder.readBy_read?.exists_division body.toList
  have hfill := fill_of_divides hdivides context
  refine ⟨found, rest, hdivides, hunique, htext, ?_, ?_⟩
  · intro text
    simp only [hfill, map_eq_ok_iff, mapM_eq_ok_iff, forall₂_filledPart_iff]
    constructor
    · rintro ⟨_, ⟨values, hvalues, rfl⟩, rfl⟩
      exact ⟨values, hvalues, rfl⟩
    · rintro ⟨values, hvalues, rfl⟩
      exact ⟨_, ⟨values, hvalues, rfl⟩, rfl⟩
  · intro error
    simp only [hfill, map_eq_error_iff, mapM_eq_error_iff, filledPart_eq_error_iff,
      exists_filledPart_iff]

end Body

/-! ## Bodies that are cut behind closing braces -/

namespace Placeholder

/-- A placeholder that begins in front of closing braces ends there at the latest. -/
theorem read?_append_closing (front behind : List Char) :
    read? (front ++ closing ++ behind) =
      (read? (front ++ closing)).map fun found => (found.1, found.2 ++ behind) := by
  cases hread : read? (front ++ closing) with
  | some found =>
    obtain ⟨inside, htext, hnearest, hvalue⟩ := read?_eq_some_iff.mp hread
    rw [htext, List.append_assoc, read?_print hnearest, ← hvalue]
    rfl
  | none =>
    rw [Option.map_none, read?_eq_none_iff]
    rw [read?_eq_none_iff] at hread
    rintro ⟨rest, htext, _⟩
    -- The opening braces stand in front of the closing ones, of which they hold none.
    have hbegins : opening <+: front ++ '}' :: '}' :: behind := by
      refine ⟨rest, ?_⟩
      rw [← htext, closing]
      simp
    obtain ⟨inside, rfl⟩ := begins_of_not_mem hbegins (by decide)
    exact hread ⟨inside ++ closing, by simp, ⟨inside, [], by simp⟩⟩

end Placeholder

namespace Body

theorem pieces_append_closing (front behind : List Char) :
    pieces (front ++ Placeholder.closing ++ behind) =
      pieces (front ++ Placeholder.closing) ++ pieces behind := by
  have hsealed : Sealed (fun _ text => Placeholder.read? text) (front ++ Placeholder.closing) := by
    refine sealed_append (fun c hmem before rest => ?_)
      (fun _ => Placeholder.read?_append_closing) front
    apply Placeholder.read?_of_ne
    rintro rfl
    exact absurd hmem (by decide)
  exact hsealed.scan_append Placeholder.readBy_read?.takes (fun _ _ _ => rfl) behind

/-- Closing braces divide a body into two that are filled in apart, whatever stands in front
of them and behind them.  The error of the first part comes before that of the second. -/
theorem fill_append_closing (front behind : String) (context : Context) :
    fill (front ++ String.ofList Placeholder.closing ++ behind) context = do
      let first ← fill (front ++ String.ofList Placeholder.closing) context
      let second ← fill behind context
      return first ++ second := by
  simp only [fill_eq_map, String.toList_append, String.toList_ofList, pieces_append_closing,
    mapM_append_flatten]
  cases ((pieces (front.toList ++ Placeholder.closing)).mapM (filled context)).map List.flatten with
  | error error => rfl
  | ok first =>
    cases ((pieces behind.toList).mapM (filled context)).map List.flatten with
    | error error => rfl
    | ok second => simp [Except.map, bind, Except.bind, pure, Except.pure]

end Body

end Aviso
