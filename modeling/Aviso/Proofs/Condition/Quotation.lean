import Aviso.Proofs.Condition.Layout

/-!
# Texts in quotes

A quotation without the braces of a placeholder may stand on the right of a
comparison.  Conditions are divided at their joints before any token is read, so
the quotes hide everything from a reading but the joints in front of opening braces.

* `Condition.two_le_length_segments`: a text with a joint in it is several segments.
* `Condition.parse_quotation`: so a comparison with a quotation is read as it is
  written if no joint stands between the quotes, and never as one comparison
  otherwise.
-/

namespace Aviso

open Text

/-! ## Segments -/

namespace Condition

theorem length_segmentsOf (connective : Option Connective) (found : List (Find Connective))
    (rest : List Char) : (segmentsOf connective found rest).length = found.length + 1 := by
  induction found generalizing connective with
  | nil => rfl
  | cons find found ih => rw [segmentsOf, List.length_cons, ih, List.length_cons]

/-- Where a joint stands there are two segments or more. -/
theorem two_le_length_segments {text : List Char} (hdivided : ¬ Undivided text []) :
    2 ≤ (segments text).length := by
  obtain ⟨found, rest, hfound⟩ := exists_divided Connective.takes_read none text
  rw [segments_of_divided hfound, length_segmentsOf]
  cases found with
  | nil =>
    rcases hfound.inv with ⟨_, _, hsilent⟩ | ⟨_, _, _, _, _, _, _, hsome, _⟩
    · exact absurd ((undivided_iff_silent none).mpr hsilent) hdivided
    · exact absurd hsome (by simp)
  | cons find found =>
    rw [List.length_cons]
    omega

/-- A condition with a joint in it is an error or two comparisons or more. -/
theorem parse_of_divided {text : String}
    (hdivided : ¬ Undivided (withoutTag (trim text.toList)) []) :
    (∃ error, parse text = .error error) ∨
      ∃ first second others, parse text = .ok (first :: second :: others) := by
  have hsome : withoutTag (trim text.toList) ≠ [] := by
    intro hnone
    rw [hnone] at hdivided
    exact hdivided ((undivided_iff_silent none).mpr (silent_nil _ _ _))
  have hlength := two_le_length_segments hdivided
  cases hparse : parse text with
  | error error => exact .inl ⟨error, rfl⟩
  | ok comparisons =>
    rw [parse_eq_mapM hsome, mapM_eq_ok_iff] at hparse
    rw [hparse.length_eq] at hlength
    match comparisons, hlength with
    | first :: second :: others, _ => exact .inr ⟨first, second, others, rfl⟩

/-! ## Comparisons with a quotation -/

section Quotation

variable {left spelling : String} {comparator : Comparator} {quote : Char} {inside : List Char}

/-- The comparison of a placeholder with a quotation. -/
def quoting (left : String) (comparator : Comparator) (quote : Char) (inside : List Char) :
    Comparison :=
  ⟨left, comparator, String.ofList (quote :: inside ++ [quote]), none⟩

theorem text_quoting (left spelling : String) (comparator : Comparator) (quote : Char)
    (inside : List Char) :
    (Layout.plain spelling).text (quoting left comparator quote inside) =
      Comparison.plainText left spelling (quote :: inside ++ [quote]) := by
  rw [Layout.text_plain, quoting, String.toList_ofList]

theorem legible_quoting (hleft : Enclosable left) (hspelling : spelling ∈ comparator.keywords)
    (hquote : quote = '\'' ∨ quote = '"') (hfree : quote ∉ inside) :
    (Layout.plain spelling).Legible (quoting left comparator quote inside) := by
  refine ⟨hspelling, hleft, ?_⟩
  rw [Layout.plain, OperandForm.Legible, quoting, String.toList_ofList]
  exact .quotation hquote hfree

/-- The joints in a comparison with a quotation are those between the quotes. -/
theorem undivided_quoting_iff (hleft : Enclosable left) (hspelling : spelling ∈ comparator.keywords)
    (hquote : quote = '\'' ∨ quote = '"') (hfree : quote ∉ inside) :
    Undivided (Comparison.plainText left spelling (quote :: inside ++ [quote])) [] ↔
      Undivided inside [] := by
  have hiff := @Layout.undivided_iff _ _ (legible_quoting hleft hspelling hquote hfree) [] []
    blanks_nil (by simp)
  rw [List.append_nil, List.append_nil, text_quoting] at hiff
  rw [hiff, Layout.plain, OperandForm.text, quoting, String.toList_ofList]
  exact Connective.undivided_quotation_iff hquote []

/-- A quotation hides everything but a joint in front of opening braces: without one
between its quotes the comparison is read as it is written, and with one it is an
error or several comparisons. -/
theorem parse_quotation (hleft : Enclosable left) (hspelling : spelling ∈ comparator.keywords)
    (hquote : quote = '\'' ∨ quote = '"') (hfree : quote ∉ inside) :
    let text := String.ofList (Comparison.plainText left spelling (quote :: inside ++ [quote]))
    (Undivided inside [] →
      parse text =
        .ok [⟨left, comparator, String.ofList (quote :: inside ++ [quote]), none⟩]) ∧
    (¬ Undivided inside [] →
      (∃ error, parse text = .error error) ∨
        ∃ first second others, parse text = .ok (first :: second :: others)) := by
  intro text
  have hlegible := legible_quoting hleft hspelling hquote hfree
  have hundivided := undivided_quoting_iff hleft hspelling hquote hfree
  have hinner : withoutTag (trim text.toList) =
      Comparison.plainText left spelling (quote :: inside ++ [quote]) := by
    have hwhole := @withoutTag_trim_laidOut
      (quoting left comparator quote inside, Layout.plain spelling) []
      (List.forall_mem_singleton.mpr hlegible)
    rw [laidOut, List.flatMap_nil, List.append_nil, text_quoting] at hwhole
    rw [String.toList_ofList, hwhole]
  constructor
  · intro hinside
    have hmade := Layout.madeOf hlegible blanks_nil
    rw [List.append_nil, text_quoting] at hmade
    apply parse_of_written
    rw [hinner]
    exact .last (readClause_of_undivided (hundivided.mpr hinside)) hmade rfl
  · intro hinside
    apply parse_of_divided
    rw [hinner, hundivided]
    exact hinside

end Quotation

/-- Placeholders, keywords, numbers and other quotes between quotes are no part of a
condition. -/
theorem parse_quotation_whole :
    let inside := "{{x}} CAMBIÓ A \"5\" y {{z}}".toList
    Undivided inside [] ∧
      parse "{{ticket.a}} NO ES IGUAL QUE '{{x}} CAMBIÓ A \"5\" y {{z}}'" =
        .ok [⟨"ticket.a", .notEqual, "'{{x}} CAMBIÓ A \"5\" y {{z}}'", none⟩] := by
  intro inside
  have hundivided : Undivided inside [] :=
    (undivided_iff_silent none).mpr (Connective.silent_of_isChain (by decide) none)
  have hparse := (@parse_quotation "ticket.a" "NO ES IGUAL QUE" .notEqual '\'' inside
    (by decide) (by decide) (.inl rfl) (by decide)).1 hundivided
  exact ⟨hundivided, hparse⟩

/-- A joint between quotes cuts the quotation off, and the condition with it. -/
theorem parse_quotation_divided :
    parse "{{ticket.titulo}} TERMINA CON 'blanco Y {{negro}}'" =
      .error (.malformedSegment "{{ticket.titulo}} TERMINA CON 'blanco") := by
  decide

/-- What stands behind a joint between quotes can be read as a comparison of its own. -/
example : parse "{{ticket.a}} CONTIENE '5 Y {{ticket.b}} CONTIENE 7'" =
    .ok [⟨"ticket.a", .contains, "5", none⟩, ⟨"ticket.b", .contains, "7", some .and⟩] := by
  decide +kernel

end Condition

end Aviso
