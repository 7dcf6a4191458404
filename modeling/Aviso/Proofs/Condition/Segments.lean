import Mathlib.Data.List.Infix
import Mathlib.Data.List.TakeWhile
import Aviso.Condition.Parse
import Aviso.Proofs.Results
import Aviso.Proofs.Text.Blank
import Aviso.Proofs.Text.Cut
import Aviso.Proofs.Text.Scan

/-!
# The segments of a condition

A `Joint` is a connective as it stands between two comparisons.  A condition is
divided at its joints, and each of its segments is read as one comparison.

* `Connective.read_eq_some_iff` and `undivided_iff_silent`: the scan for
  connectives finds the joints in front of placeholders, and nothing else.
* `segments_of_divided`: a division at the joints determines the segments.
* `readSegment_eq_ok_iff` and `readSegment_eq_error_iff`: a segment is read by the
  tokens that stand in it.
* `parse_eq_error_iff`: the error of a condition is that of its first segment that
  is no comparison.
-/

namespace Aviso

open Text

/-! ## Joints -/

/-- A connective as it stands between two comparisons: a blank in front of it, and
blanks behind it. -/
def Joint (connective : Connective) (text : List Char) : Prop :=
  ∃ blank blanks, text = blank :: connective.keyword :: blanks ∧
    isBlank blank = true ∧ Blanks blanks ∧ blanks ≠ []

/-- No joint in front of a placeholder begins in the segment, when `behind` stands
behind it. -/
def Undivided (segment behind : List Char) : Prop :=
  ∀ front back joint more, segment = front ++ back → back ≠ [] → back ++ behind = joint ++ more →
    Placeholder.opening <+: more → ∀ connective, ¬ Joint connective joint

namespace Connective

theorem keyword_of_ofKeyword? {c : Char} {connective : Connective}
    (hfound : ofKeyword? c = some connective) : c = connective.keyword := by
  have hsame := List.find?_some hfound
  exact (beq_iff_eq.mp hsame).symm

/-- The scan for connectives takes the joints in front of placeholders. -/
theorem read_eq_some_iff {before : Option Char} {text behind : List Char}
    {connective : Connective} :
    Connective.read before text = some (connective, behind) ↔
      ∃ joint, text = joint ++ behind ∧ Joint connective joint ∧
        Placeholder.opening <+: behind := by
  constructor
  · intro hread
    unfold Connective.read at hread
    split at hread
    · rename_i blank letter rest
      simp only [Option.bind_eq_bind, Option.bind_eq_some_iff] at hread
      rcases hread with ⟨found, hletter, hread⟩
      split at hread
      · rename_i hstands
        obtain ⟨rfl, rfl⟩ := Prod.mk.inj (Option.some.inj hread)
        simp only [Bool.and_eq_true] at hstands
        rcases hstands with ⟨⟨hblank, hrest⟩, hopens⟩
        obtain ⟨blanks, hblanks, hsplit⟩ := exists_trimStart rest
        refine ⟨blank :: found.keyword :: blanks, ?_, ⟨blank, blanks, rfl, hblank, hblanks, ?_⟩,
          isSome_after?_iff.mp hopens⟩
        · rw [List.cons_append, List.cons_append, ← hsplit, keyword_of_ofKeyword? hletter]
        · rintro rfl
          rw [List.nil_append] at hsplit
          rw [hsplit, startsBlank_trimStart] at hrest
          exact absurd hrest (by decide)
      · exact absurd hread (by simp)
    · exact absurd hread (by simp)
  · intro hstands
    rcases hstands with ⟨_, rfl, ⟨blank, blanks, rfl, hblank, hblanks, hsome⟩, hopens⟩
    have hstart : trimStart (blanks ++ behind) = behind := by
      rw [trimStart_append hblanks]
      rcases hopens with ⟨expression, rfl⟩
      exact trimStart_eq_self rfl
    have hrest : startsBlank (blanks ++ behind) = true := by
      cases blanks with
      | nil => exact absurd rfl hsome
      | cons c blanks => exact hblanks c List.mem_cons_self
    rw [List.cons_append, List.cons_append, Connective.read, ofKeyword?_keyword]
    simp [hstart, hrest, hblank, isSome_after?_iff.mpr hopens]

theorem takes_read : Takes Connective.read := by
  intro before c text connective behind hread
  obtain ⟨joint, htext, ⟨_, _, rfl, _⟩, _⟩ := read_eq_some_iff.mp hread
  exact ⟨_, (List.cons.inj htext).2⟩

end Connective

theorem undivided_iff_silent {segment behind : List Char} (before : Option Char) :
    Undivided segment behind ↔ Silent Connective.read before segment behind := by
  constructor
  · intro hundivided front c back hsplit
    cases hread : Connective.read (lastOf before front) (c :: (back ++ behind)) with
    | none => rfl
    | some found =>
      obtain ⟨joint, htext, hjoint, hopens⟩ := Connective.read_eq_some_iff.mp hread
      exact absurd hjoint
        (hundivided front (c :: back) joint found.2 hsplit (by simp) htext hopens _)
  · intro hsilent front back joint more hsplit hback htext hopens connective hjoint
    cases back with
    | nil => exact hback rfl
    | cons c back =>
      have hread := (@Connective.read_eq_some_iff (lastOf before front) _ _ _).mpr
        ⟨joint, htext, hjoint, hopens⟩
      rw [List.cons_append, hsilent front c back hsplit] at hread
      exact absurd hread (by simp)

theorem undivided_append_iff {first second behind : List Char} :
    Undivided (first ++ second) behind ↔
      Undivided first (second ++ behind) ∧ Undivided second behind := by
  rw [undivided_iff_silent none, silent_append_iff, ← undivided_iff_silent,
    ← undivided_iff_silent]

/-! ## Segments -/

namespace Condition

/-- The segments of a division at the joints, the first one behind `connective`. -/
def segmentsOf (connective : Option Connective) :
    List (Find Connective) → List Char → List (Option Connective × List Char)
  | [], rest => [(connective, rest)]
  | find :: finds, rest => (connective, find.gap) :: segmentsOf (some find.value) finds rest

theorem segmentsOf_eq (connective : Option Connective) (found : List (Find Connective))
    (rest : List Char) :
    segmentsOf connective found rest =
      (connective, (gapsOf found rest).1) ::
        (gapsOf found rest).2.map fun part => (some part.1, part.2) := by
  induction found generalizing connective with
  | nil => rfl
  | cons find found ih => rw [segmentsOf, ih, gapsOf, List.map_cons]

/-- A division of a condition at its joints determines the segments. -/
theorem segments_of_divided {text rest : List Char} {found : List (Find Connective)}
    (hdivided : Divided Connective.read none text found rest) :
    segments text = segmentsOf none found rest := by
  rw [segments, hdivided.divide_scan, segmentsOf_eq]

end Condition

/-! ## The comparison of a segment -/

/-- The tokens are the left operand of the comparison, its comparator and its
right operand. -/
def Comparison.MadeOf (comparison : Comparison) (tokens : List Token) : Prop :=
  ∃ left right, tokens = [left, .comparator comparison.comparator, right] ∧
    left.operand? = some comparison.left ∧ right.operand? = some comparison.right

namespace Condition

theorem ofTokens?_eq_some_iff {connective : Option Connective} {tokens : List Token}
    {comparison : Comparison} :
    ofTokens? connective tokens = some comparison ↔
      comparison.connective = connective ∧ comparison.MadeOf tokens := by
  constructor
  · intro hmade
    unfold ofTokens? at hmade
    split at hmade
    · rename_i left comparator right
      simp only [Option.bind_eq_bind, Option.bind_eq_some_iff, Option.pure_def,
        Option.some.injEq] at hmade
      rcases hmade with ⟨leftText, hleft, rightText, hright, rfl⟩
      exact ⟨rfl, left, right, rfl, hleft, hright⟩
    · exact absurd hmade (by simp)
  · intro hmade
    rcases hmade with ⟨rfl, left, right, rfl, hleft, hright⟩
    simp [ofTokens?, hleft, hright]

theorem readSegment_eq_ok_iff {connective : Option Connective} {segment : List Char}
    {comparison : Comparison} :
    readSegment connective segment = .ok comparison ↔
      comparison.connective = connective ∧ comparison.MadeOf (finds Token.read segment) := by
  rw [readSegment, ← ofTokens?_eq_some_iff]
  cases ofTokens? connective (finds Token.read segment) <;> simp

theorem readSegment_eq_error_iff {connective : Option Connective} {segment : List Char}
    {error : ConditionError} :
    readSegment connective segment = .error error ↔
      (∀ comparison : Comparison, ¬ comparison.MadeOf (finds Token.read segment)) ∧
        error = .malformedSegment (String.ofList (trim segment)) := by
  rw [readSegment]
  cases hmade : ofTokens? connective (finds Token.read segment) with
  | some comparison =>
    have hcomparison := (ofTokens?_eq_some_iff.mp hmade).2
    simp only [reduceCtorEq, false_iff, not_and]
    intro hnone
    exact absurd hcomparison (hnone comparison)
  | none =>
    have hnone (comparison : Comparison) : ¬ comparison.MadeOf (finds Token.read segment) := by
      intro hmade
      rcases hmade with ⟨left, right, htokens, hleft, hright⟩
      have hmadeOf : ({ comparison with connective } : Comparison).MadeOf
          (finds Token.read segment) := ⟨left, right, htokens, hleft, hright⟩
      rw [ofTokens?_eq_some_iff.mpr ⟨rfl, hmadeOf⟩] at hmade
      exact absurd hmade (by simp)
    simp only [Except.error.injEq, hnone, not_false_eq_true, implies_true, true_and, eq_comm]

/-- A condition that is not blank is read segment by segment. -/
theorem parse_eq_mapM {text : String} (hsome : withoutTag (trim text.toList) ≠ []) :
    parse text =
      (segments (withoutTag (trim text.toList))).mapM fun part => readSegment part.1 part.2 := by
  simp only [parse, List.isEmpty_iff, if_neg hsome]

theorem parse_eq_nil {text : String} (hnone : withoutTag (trim text.toList) = []) :
    parse text = .ok [] := by
  simp only [parse, hnone, List.isEmpty_nil, if_true]

/-- The error of a condition is that of its first segment that is no comparison. -/
theorem parse_eq_error_iff {text : String} {error : ConditionError} :
    parse text = .error error ↔
      withoutTag (trim text.toList) ≠ [] ∧ ∃ passed part later,
        segments (withoutTag (trim text.toList)) = passed ++ part :: later ∧
        (∀ earlier ∈ passed, ∃ comparison : Comparison,
          comparison.MadeOf (finds Token.read earlier.2)) ∧
        (∀ comparison : Comparison, ¬ comparison.MadeOf (finds Token.read part.2)) ∧
        error = .malformedSegment (String.ofList (trim part.2)) := by
  by_cases hnone : withoutTag (trim text.toList) = []
  · rw [parse_eq_nil hnone]
    simp [hnone]
  · have hreads (part : Option Connective × List Char) :
        (∃ comparison, readSegment part.1 part.2 = .ok comparison) ↔
          ∃ comparison : Comparison, comparison.MadeOf (finds Token.read part.2) := by
      simp only [readSegment_eq_ok_iff]
      constructor
      · intro hread
        rcases hread with ⟨comparison, _, hmade⟩
        exact ⟨comparison, hmade⟩
      · intro hmadeOf
        rcases hmadeOf with ⟨comparison, hmade⟩
        exact ⟨{ comparison with connective := part.1 }, rfl, hmade⟩
    rw [parse_eq_mapM hnone, mapM_eq_error_iff]
    simp only [hreads, readSegment_eq_error_iff, hnone, ne_eq, not_false_eq_true, true_and]

end Condition

end Aviso
