import Aviso.Proofs.Condition.Segments
import Aviso.Proofs.Condition.Tokens

/-!
# What a condition is made of

A condition that can be read is its comparisons, written one after another.  The
tokens of a comparison need not stand side by side: a text in which no token
stands is passed over.

* `Spaced` says that a text is tokens with gaps around them, and `Written` that it
  is comparisons with joints between them.  What a gap and what a clause is are
  arguments, so that blank gaps and the gaps of a reading are told apart.
* `parse_passes_words_over`: a condition can be read though a word stands in a gap.
* `parse_iff_written`: a condition has comparisons exactly when it is written as
  they are, with gaps in which no token stands; and otherwise the first segment
  that is no comparison is its error.
-/

namespace Aviso.Condition

open Text

/-! ## Tokens and comparisons, one after another -/

/-- The text behind `before` is the tokens, with gaps around them.  A gap may
depend on what stands in front of it and behind it. -/
inductive Spaced (gap : Option Char → List Char → List Char → Prop) :
    Option Char → List Char → List Token → Prop where
  | last {before text} (hgap : gap before text []) : Spaced gap before text []
  | token {before space taken behind token tokens}
      (hgap : gap before space (taken ++ behind))
      (hstands : Token.Stands token (lastOf before space) taken behind)
      (hbehind : Spaced gap (lastOf (lastOf before space) taken) behind tokens) :
      Spaced gap before (space ++ (taken ++ behind)) (token :: tokens)

/-- The text is the comparisons, with a joint between each and the next one.  The
first one has the given connective, and every other one that of its joint. -/
inductive Written (clause : List Char → List Char → List Token → Prop) :
    Option Connective → List Char → List Comparison → Prop where
  | last {connective segment tokens comparison} (hclause : clause segment [] tokens)
      (hmade : Comparison.MadeOf comparison tokens)
      (hconnective : comparison.connective = connective) :
      Written clause connective segment [comparison]
  | joint {connective segment tokens comparison next joint behind comparisons}
      (hclause : clause segment (joint ++ behind) tokens)
      (hmade : Comparison.MadeOf comparison tokens)
      (hconnective : comparison.connective = connective)
      (hjoint : Joint next joint) (hopens : Placeholder.opening <+: behind)
      (hbehind : Written clause (some next) behind comparisons) :
      Written clause connective (segment ++ (joint ++ behind)) (comparison :: comparisons)

/-- One comparison is written by one clause. -/
theorem Written.exists_clause {clause : List Char → List Char → List Token → Prop}
    {connective : Option Connective} {text : List Char} {comparison : Comparison}
    (hwritten : Written clause connective text [comparison]) :
    ∃ tokens, clause text [] tokens ∧ comparison.MadeOf tokens := by
  cases hwritten with
  | last hclause hmade => exact ⟨_, hclause, hmade⟩
  | joint _ _ _ _ _ hbehind => cases hbehind

/-! ## Gaps that are not blank -/

/-- The segment is the tokens, and nothing but blanks around them. -/
def BlankClause (segment _behind : List Char) (tokens : List Token) : Prop :=
  Spaced (fun _ gap _ => Blanks gap) none segment tokens

/-- A text in front of which neither a blank nor a token stands is no tokens with
blanks around them. -/
theorem not_spaced_blanks {before : Option Char} {c : Char} {text : List Char} {token : Token}
    {tokens : List Token} (hsolid : isBlank c = false)
    (hnone : Token.read before (c :: text) = none) :
    ¬ Spaced (fun _ gap _ => Blanks gap) before (c :: text) (token :: tokens) := by
  intro hspaced
  generalize htext : c :: text = whole at hspaced
  cases hspaced with
  | @token _ space taken behind _ _ hgap hstands _ =>
    cases space with
    | nil =>
      have hsome := Token.isSome_read_of_stands hstands
      rw [List.nil_append] at htext
      rw [← htext, lastOf, hnone] at hsome
      exact absurd hsome (by simp)
    | cons d space =>
      obtain ⟨rfl, _⟩ := List.cons.inj htext
      rw [hgap c List.mem_cons_self] at hsolid
      exact absurd hsolid (by decide)

/-- A word in front of an operand is passed over, also one that would mean the
opposite. -/
theorem parse_passes_words_over :
    ∃ comparisons, parse "NO {{ticket.a}} ES IGUAL QUE 1" = .ok comparisons ∧ comparisons ≠ [] ∧
      ¬ Written BlankClause none (withoutTag (trim "NO {{ticket.a}} ES IGUAL QUE 1".toList))
        comparisons := by
  refine ⟨[⟨"ticket.a", .equal, "1", none⟩], by decide, by simp, ?_⟩
  have htext : withoutTag (trim "NO {{ticket.a}} ES IGUAL QUE 1".toList) =
      'N' :: "O {{ticket.a}} ES IGUAL QUE 1".toList := by
    decide
  rw [htext]
  intro hwritten
  obtain ⟨tokens, hclause, left, right, rfl, _⟩ := hwritten.exists_clause
  exact not_spaced_blanks (by decide) (by decide) hclause

/-! ## The gaps of a reading -/

/-- The segment is the tokens with gaps around them in which no token stands, and
these are the tokens that the scan takes.  No joint divides the segment. -/
structure ReadClause (segment behind : List Char) (tokens : List Token) : Prop where
  undivided : Undivided segment behind
  spaced : Spaced Token.Free none segment tokens
  tokens_eq : finds Token.read segment = tokens

/-- The gaps of a scan for tokens hold none. -/
theorem spaced_of_divided {before : Option Char} {text rest : List Char}
    {found : List (Find Token)} (hdivided : Divided Token.read before text found rest) :
    Spaced Token.Free before text (found.map Find.value) := by
  induction hdivided with
  | last hgap => exact .last (Token.silent_iff_free.mp hgap)
  | @find before gap c taken behind value finds rest hgap hfind _ ih =>
    obtain ⟨word, htext, hstands⟩ := Token.exists_stands_of_read hfind
    have hword : c :: taken = word := by
      apply @List.append_cancel_right _ _ behind
      rw [← htext, List.cons_append]
    subst hword
    exact .token (Token.silent_iff_free.mp hgap) hstands ih

/-- A segment is the tokens that the scan for tokens takes. -/
theorem readClause_of_undivided {segment behind : List Char}
    (hundivided : Undivided segment behind) :
    ReadClause segment behind (finds Token.read segment) := by
  obtain ⟨found, rest, hdivided⟩ := exists_divided Token.takes_read none segment
  refine ⟨hundivided, ?_, rfl⟩
  rw [hdivided.finds_eq]
  exact spaced_of_divided hdivided

/-- Segments that are read as comparisons are written as they are. -/
theorem written_of_divided {before : Option Char} {connective : Option Connective}
    {text rest : List Char} {found : List (Find Connective)} {comparisons : List Comparison}
    (hdivided : Divided Connective.read before text found rest)
    (hreads : List.Forall₂ (fun part comparison => readSegment part.1 part.2 = .ok comparison)
      (segmentsOf connective found rest) comparisons) :
    Written ReadClause connective text comparisons := by
  induction hdivided generalizing connective comparisons with
  | last hgap =>
    obtain ⟨comparison, _, hread, hrest, rfl⟩ := List.forall₂_cons_left_iff.mp hreads
    obtain rfl := List.forall₂_nil_left_iff.mp hrest
    obtain ⟨hconnective, hmade⟩ := readSegment_eq_ok_iff.mp hread
    exact .last (readClause_of_undivided ((undivided_iff_silent _).mpr hgap)) hmade hconnective
  | @find before gap c taken behind next finds rest hgap hfind _ ih =>
    obtain ⟨comparison, comparisons, hread, hrest, rfl⟩ := List.forall₂_cons_left_iff.mp hreads
    obtain ⟨hconnective, hmade⟩ := readSegment_eq_ok_iff.mp hread
    obtain ⟨joint, htext, hjoint, hopens⟩ := Connective.read_eq_some_iff.mp hfind
    rw [htext] at hgap ⊢
    exact .joint (readClause_of_undivided ((undivided_iff_silent _).mpr hgap)) hmade hconnective
      hjoint hopens (ih hrest)

/-- Comparisons that are written one after another are read from the segments. -/
theorem exists_divided_of_written {connective : Option Connective} {text : List Char}
    {comparisons : List Comparison} (hwritten : Written ReadClause connective text comparisons)
    (before : Option Char) :
    ∃ found rest, Divided Connective.read before text found rest ∧
      List.Forall₂ (fun part comparison => readSegment part.1 part.2 = .ok comparison)
        (segmentsOf connective found rest) comparisons := by
  induction hwritten generalizing before with
  | @last _ segment _ _ hclause hmade hconnective =>
    rw [← hclause.tokens_eq] at hmade
    refine ⟨[], segment, .last ((undivided_iff_silent before).mp hclause.undivided), ?_⟩
    exact .cons (readSegment_eq_ok_iff.mpr ⟨hconnective, hmade⟩) .nil
  | @joint _ segment _ _ next joint behind _ hclause hmade hconnective hjoint hopens _ ih =>
    rw [← hclause.tokens_eq] at hmade
    have hgap := (undivided_iff_silent before).mp hclause.undivided
    rcases hjoint with ⟨blank, blanks, rfl, hblank⟩
    have hfind : Connective.read (lastOf before segment)
        (blank :: (next.keyword :: blanks ++ behind)) = some (next, behind) :=
      Connective.read_eq_some_iff.mpr ⟨_, rfl, ⟨blank, blanks, rfl, hblank⟩, hopens⟩
    obtain ⟨found, rest, hdivided, hreads⟩ :=
      ih (lastOf (lastOf before segment) (blank :: next.keyword :: blanks))
    exact ⟨_, rest, .find hgap hfind hdivided,
      .cons (readSegment_eq_ok_iff.mpr ⟨hconnective, hmade⟩) hreads⟩

/-- Nothing is written by the empty text. -/
theorem Written.ne_nil {connective : Option Connective} {text : List Char}
    {comparisons : List Comparison} (hwritten : Written ReadClause connective text comparisons) :
    text ≠ [] := by
  cases hwritten with
  | last hclause hmade =>
    rintro rfl
    rcases hmade with ⟨left, right, rfl, _⟩
    exact absurd hclause.tokens_eq (by simp [finds, scan, scanFrom])
  | joint _ _ _ hjoint =>
    rcases hjoint with ⟨blank, blanks, rfl, _⟩
    simp

/-- A condition is read as the comparisons that are written in it. -/
theorem parse_of_written {text : String} {comparisons : List Comparison}
    (hwritten : Written ReadClause none (withoutTag (trim text.toList)) comparisons) :
    parse text = .ok comparisons := by
  obtain ⟨found, rest, hdivided, hreads⟩ := exists_divided_of_written hwritten none
  rw [parse_eq_mapM hwritten.ne_nil, mapM_eq_ok_iff, segments_of_divided hdivided]
  exact hreads

/-- A condition has comparisons exactly when it is written as they are: an operand,
a comparator and an operand, with gaps around them in which no token stands, and
the connective of every later comparison in front of it.  So another token in a
segment makes the condition an error, that of the first such segment. -/
theorem parse_iff_written (text : String) :
    let inner := withoutTag (trim text.toList)
    (∀ comparisons, parse text = .ok comparisons ↔
      (inner = [] ∧ comparisons = []) ∨ Written ReadClause none inner comparisons) ∧
    (∀ error, parse text = .error error ↔
      inner ≠ [] ∧ ∃ passed part later, segments inner = passed ++ part :: later ∧
        (∀ earlier ∈ passed, ∃ comparison : Comparison,
          comparison.MadeOf (finds Token.read earlier.2)) ∧
        (∀ comparison : Comparison, ¬ comparison.MadeOf (finds Token.read part.2)) ∧
        error = .malformedSegment (String.ofList (trim part.2))) := by
  intro inner
  refine ⟨fun comparisons => ?_, fun error => parse_eq_error_iff⟩
  constructor
  · intro hparse
    by_cases hnone : inner = []
    · rw [parse_eq_nil hnone] at hparse
      exact .inl ⟨hnone, (Except.ok.inj hparse).symm⟩
    · obtain ⟨found, rest, hdivided⟩ := exists_divided Connective.takes_read none inner
      rw [parse_eq_mapM hnone, mapM_eq_ok_iff, segments_of_divided hdivided] at hparse
      exact .inr (written_of_divided hdivided hparse)
  · intro hcases
    rcases hcases with ⟨hnone, rfl⟩ | hwritten
    · exact parse_eq_nil hnone
    · exact parse_of_written hwritten

end Aviso.Condition
