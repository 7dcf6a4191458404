import Aviso.Proofs.Condition.Joints

/-!
# How a condition is divided

A condition is divided at the joints that stand in front of placeholders.  Nothing
of it is lost that way, and no segment could be divided further.

* `Jointed` is a segment with the joint in front of it.
* `undivided_joint_iff`: joints do not overlap, so whether a segment can be divided
  does not depend on what stands behind it.
* `segments_eq_iff`: the segments are the only division of a text into texts
  without joints.
* `segments_division`: every segment is read as one comparison, behind its own joint,
  and the first segment that is none is the error.
-/

namespace Aviso.Condition

open Text

/-- A segment that begins with a placeholder, and the joint in front of it. -/
structure Jointed where
  connective : Connective
  joint : List Char
  segment : List Char
  is_joint : Joint connective joint
  opens : Placeholder.opening <+: segment

namespace Jointed

/-- The segment behind its joint. -/
def text (part : Jointed) : List Char :=
  part.joint ++ part.segment

/-- The segment with the connective of its joint. -/
def part (part : Jointed) : Option Connective × List Char :=
  (some part.connective, part.segment)

end Jointed

/-- The segment holds no joint in front of a placeholder. -/
def Whole (segment : List Char) : Prop :=
  ∀ connective joint, Joint connective joint → ¬ joint ++ Placeholder.opening <:+: segment

/-! ## Joints do not overlap -/

theorem whole_iff_undivided {segment : List Char} : Whole segment ↔ Undivided segment [] := by
  constructor
  · rintro hwhole front back joint more rfl _ htext ⟨rest, rfl⟩ connective hjoint
    rw [List.append_nil] at htext
    apply hwhole connective joint hjoint
    exact ⟨front, rest, by rw [htext, List.append_assoc, List.append_assoc]⟩
  · rintro hundivided connective joint hjoint ⟨front, rest, rfl⟩
    have hsome : joint ≠ [] := by
      obtain ⟨blank, blanks, rfl, _⟩ := hjoint
      simp
    refine hundivided front (joint ++ (Placeholder.opening ++ rest)) joint
      (Placeholder.opening ++ rest) ?_ (by simp [hsome]) (List.append_nil _)
      (List.prefix_append _ _) connective hjoint
    simp only [List.append_assoc]

/-- Braces that open in front of a joint close before it. -/
theorem opening_begins_of_joint {connective : Connective} {joint segment behind : List Char}
    (hjoint : Joint connective joint)
    (hopens : Placeholder.opening <+: segment ++ (joint ++ behind)) :
    Placeholder.opening <+: segment := by
  obtain ⟨blank, blanks, rfl, hblank, _⟩ := hjoint
  have hfree : blank ∉ Placeholder.opening := by
    intro hmem
    obtain rfl : blank = '{' := by simpa [Placeholder.opening] using hmem
    exact absurd hblank (by decide)
  exact begins_of_not_mem hopens hfree

theorem isBlank_keyword (connective : Connective) : isBlank connective.keyword = false := by
  cases connective <;> decide

theorem not_opening_begins_blank {c : Char} {text : List Char} (hblank : isBlank c = true) :
    ¬ Placeholder.opening <+: c :: text := by
  intro hopens
  obtain ⟨rfl, _⟩ := List.cons_prefix_cons.mp hopens
  exact absurd hblank (by decide)

theorem not_opening_begins_keyword (connective : Connective) (text : List Char) :
    ¬ Placeholder.opening <+: connective.keyword :: text := by
  intro hopens
  have hbrace : '{' = connective.keyword := (List.cons_prefix_cons.mp hopens).1
  cases connective <;> exact absurd hbrace (by decide)

/-- No joint in front of opening braces reaches into another joint from outside. -/
theorem not_joint_of_overlap {connective next : Connective}
    {front back joint more behind : List Char} (hfront : front ≠ [])
    (hjoint : Joint connective (front ++ back)) (hnext : Joint next joint)
    (htext : joint ++ behind = back ++ more) : ¬ Placeholder.opening <+: more := by
  obtain ⟨blank, blanks, hshape, _, hblanks, _⟩ := hjoint
  obtain ⟨blank', blanks', rfl, hblank', _⟩ := hnext
  -- What of the first joint lies in the second one is its letter with blanks, or blanks alone.
  cases front with
  | nil => exact absurd rfl hfront
  | cons d front =>
    have hletter := (List.cons.inj hshape).2
    cases front with
    | nil =>
      obtain rfl : back = connective.keyword :: blanks := hletter
      rw [(List.cons.inj htext).1, isBlank_keyword] at hblank'
      exact absurd hblank' (by decide)
    | cons e front =>
      have hback : Blanks back := by
        intro c hmem
        apply hblanks
        rw [← (List.cons.inj hletter).2]
        exact List.mem_append_right front hmem
      cases back with
      | nil =>
        rw [List.nil_append] at htext
        rw [← htext]
        exact not_opening_begins_blank hblank'
      | cons first back =>
        have htail := (List.cons.inj htext).2
        cases back with
        | nil =>
          obtain rfl : next.keyword :: (blanks' ++ behind) = more := htail
          exact not_opening_begins_keyword next _
        | cons second back =>
          have hsecond := hback second (by simp)
          rw [← (List.cons.inj htail).1, isBlank_keyword] at hsecond
          exact absurd hsecond (by decide)

/-- A joint behind a segment divides it nowhere. -/
theorem undivided_joint_iff {connective : Connective} {joint segment : List Char}
    (hnext : Joint connective joint) (behind : List Char) :
    Undivided segment (joint ++ behind) ↔ Undivided segment [] := by
  refine ⟨Connective.undivided_of_before, fun hundivided => ?_⟩
  intro front back inner more hsplit hback htext hopens next hinner
  rcases List.append_eq_append_iff.mp htext with ⟨reach, rfl, hreach⟩ | ⟨rest, rfl, rfl⟩
  · exact not_joint_of_overlap hback hinner hnext hreach hopens
  · have hbegins := opening_begins_of_joint hnext hopens
    exact hundivided front (inner ++ rest) inner rest hsplit hback (List.append_nil _) hbegins
      next hinner

/-! ## The segments of a text -/

/-- A division at the joints leaves segments that hold none. -/
theorem exists_jointed_of_divided {before : Option Char} {text rest : List Char}
    {found : List (Find Connective)} (hdivided : Divided Connective.read before text found rest)
    (connective : Option Connective) :
    ∃ (first : List Char) (others : List Jointed), text = first ++ others.flatMap Jointed.text ∧
      segmentsOf connective found rest = (connective, first) :: others.map Jointed.part ∧
      ∀ part ∈ (connective, first) :: others.map Jointed.part, Whole part.2 := by
  induction hdivided generalizing connective with
  | @last before gap hgap =>
    have hundivided := (undivided_iff_silent before).mpr hgap
    refine ⟨gap, [], (List.append_nil gap).symm, rfl, List.forall_mem_cons.mpr ⟨?_, by simp⟩⟩
    exact whole_iff_undivided.mpr hundivided
  | @find before gap c taken behind next finds rest hgap hfind _ ih =>
    obtain ⟨first, others, rfl, hsegments, hwhole⟩ := ih (some next)
    obtain ⟨joint, htext, hjoint, hopens⟩ := Connective.read_eq_some_iff.mp hfind
    have hfirst : Placeholder.opening <+: first := by
      cases others with
      | nil => rwa [List.flatMap_nil, List.append_nil] at hopens
      | cons part others =>
        rw [List.flatMap_cons, Jointed.text, List.append_assoc] at hopens
        exact opening_begins_of_joint part.is_joint hopens
    have hundivided := Connective.undivided_of_before ((undivided_iff_silent _).mpr hgap)
    refine ⟨gap, ⟨next, joint, first, hjoint, hfirst⟩ :: others, ?_, ?_, ?_⟩
    · rw [htext, List.flatMap_cons, Jointed.text, List.append_assoc]
    · rw [segmentsOf, hsegments]
      rfl
    · exact List.forall_mem_cons.mpr ⟨whole_iff_undivided.mpr hundivided, hwhole⟩

/-- Segments that hold no joints are those of a division at the joints. -/
theorem exists_divided_of_whole {first : List Char} {others : List Jointed}
    {connective : Option Connective}
    (hwhole : ∀ part ∈ (connective, first) :: others.map Jointed.part, Whole part.2)
    (before : Option Char) :
    ∃ found rest,
      Divided Connective.read before (first ++ others.flatMap Jointed.text) found rest ∧
      segmentsOf connective found rest = (connective, first) :: others.map Jointed.part := by
  induction others generalizing first connective before with
  | nil =>
    have hundivided := whole_iff_undivided.mp (List.forall_mem_cons.mp hwhole).1
    refine ⟨[], first, ?_, rfl⟩
    rw [List.flatMap_nil, List.append_nil]
    exact .last ((undivided_iff_silent before).mp hundivided)
  | cons part others ih =>
    obtain ⟨hfirst, hothers⟩ := List.forall_mem_cons.mp hwhole
    obtain ⟨found, rest, hdivided, hsegments⟩ :=
      ih hothers (lastOf (lastOf before first) part.joint)
    have hsome : part.joint ≠ [] := by
      obtain ⟨blank, blanks, hshape, _⟩ := part.is_joint
      simp [hshape]
    have hgap := (undivided_iff_silent before).mp
      ((undivided_joint_iff part.is_joint (part.segment ++ others.flatMap Jointed.text)).mpr
        (whole_iff_undivided.mp hfirst))
    have hfind : Connective.read (lastOf before first)
        (part.joint ++ (part.segment ++ others.flatMap Jointed.text)) =
          some (part.connective, part.segment ++ others.flatMap Jointed.text) :=
      Connective.read_eq_some_iff.mpr
        ⟨part.joint, rfl, part.is_joint, part.opens.trans (List.prefix_append _ _)⟩
    refine ⟨{ gap := first, taken := part.joint, value := part.connective } :: found, rest, ?_, ?_⟩
    · rw [List.flatMap_cons, Jointed.text, List.append_assoc]
      exact Divided.found hsome hgap hfind hdivided
    · rw [segmentsOf, hsegments]
      rfl

/-- The segments of a text are the only texts without joints that make it up, with a joint
in front of each but the first. -/
theorem segments_eq_iff {text : List Char} {parts : List (Option Connective × List Char)} :
    segments text = parts ↔ ∃ (first : List Char) (others : List Jointed),
      parts = (none, first) :: others.map Jointed.part ∧
      text = first ++ others.flatMap Jointed.text ∧ ∀ part ∈ parts, Whole part.2 := by
  constructor
  · rintro rfl
    obtain ⟨found, rest, hdivided⟩ := exists_divided Connective.takes_read none text
    obtain ⟨first, others, htext, hsegments, hwhole⟩ := exists_jointed_of_divided hdivided none
    rw [segments_of_divided hdivided, hsegments]
    exact ⟨first, others, rfl, htext, hwhole⟩
  · rintro ⟨first, others, rfl, rfl, hwhole⟩
    obtain ⟨found, rest, hdivided, hsegments⟩ := exists_divided_of_whole hwhole none
    rw [segments_of_divided hdivided, hsegments]

/-! ## The comparisons of the segments -/

/-- The comparison of a segment: it is made of the tokens there, and has the connective in
front of the segment. -/
def ReadFrom (part : Option Connective × List Char) (comparison : Comparison) : Prop :=
  comparison.connective = part.1 ∧ comparison.MadeOf (finds Token.read part.2)

/-- The tokens of a segment make a comparison behind every connective or behind none. -/
theorem exists_readFrom_iff {part : Option Connective × List Char} :
    (∃ comparison, ReadFrom part comparison) ↔
      ∃ comparison : Comparison, comparison.MadeOf (finds Token.read part.2) := by
  constructor
  · rintro ⟨comparison, _, hmade⟩
    exact ⟨comparison, hmade⟩
  · rintro ⟨comparison, hmade⟩
    exact ⟨{ comparison with connective := part.1 }, rfl, hmade⟩

theorem parse_eq_ok_iff {text : String} {comparisons : List Comparison} :
    parse text = .ok comparisons ↔
      (withoutTag (trim text.toList) = [] ∧ comparisons = []) ∨
      (withoutTag (trim text.toList) ≠ [] ∧
        List.Forall₂ ReadFrom (segments (withoutTag (trim text.toList))) comparisons) := by
  by_cases hnone : withoutTag (trim text.toList) = []
  · rw [parse_eq_nil hnone]
    simp [hnone, eq_comm]
  · have hread (part : Option Connective × List Char) (comparison : Comparison) :
        readSegment part.1 part.2 = .ok comparison ↔ ReadFrom part comparison :=
      readSegment_eq_ok_iff
    rw [parse_eq_mapM hnone, mapM_eq_ok_iff]
    simp only [hread, hnone, false_and, false_or, ne_eq, not_false_eq_true, true_and]

/-- The connectives of comparisons are those in front of their segments. -/
theorem map_connective_eq {parts : List (Option Connective × List Char)}
    {comparisons : List Comparison} (hreads : List.Forall₂ ReadFrom parts comparisons) :
    comparisons.map Comparison.connective = parts.map Prod.fst := by
  induction hreads with
  | nil => rfl
  | cons hread _ ih => rw [List.map_cons, List.map_cons, ih, hread.1]

/-- The first comparison of a condition has no connective, and every later one has one. -/
theorem connectives_of_parse {text : String} {first : Comparison} {later : List Comparison}
    (hparse : parse text = .ok (first :: later)) :
    first.connective = none ∧
      ∀ comparison ∈ later, ∃ connective, comparison.connective = some connective := by
  rcases parse_eq_ok_iff.mp hparse with ⟨_, hnone⟩ | ⟨_, hreads⟩
  · exact absurd hnone (by simp)
  · obtain ⟨segment, others, hsegments, _, _⟩ := segments_eq_iff.mp (Eq.refl (segments _))
    rw [hsegments] at hreads
    have hconnectives := map_connective_eq hreads
    rw [List.map_cons, List.map_cons, List.map_map] at hconnectives
    obtain ⟨hfirst, hlater⟩ := List.cons.inj hconnectives
    refine ⟨hfirst, fun comparison hmem => ?_⟩
    have hconnective : comparison.connective ∈ later.map Comparison.connective :=
      List.mem_map_of_mem hmem
    rw [hlater] at hconnective
    obtain ⟨part, _, hpart⟩ := List.mem_map.mp hconnective
    exact ⟨part.connective, hpart.symm⟩

/-- A text is divided at its joints into segments that put it together again: each but the
first begins with a placeholder and stands behind its own joint, no segment holds another
joint in front of a placeholder, and no other division is like that.  A condition that is
not blank has one comparison for each segment, in their order, made of the tokens that stand
there; only the first has no connective, and every other one has that of its joint.
Otherwise the error names the first segment that is no comparison, whatever stands behind
it. -/
theorem segments_division :
    (∀ text parts, segments text = parts ↔ ∃ (first : List Char) (others : List Jointed),
      parts = (none, first) :: others.map Jointed.part ∧
      text = first ++ others.flatMap Jointed.text ∧ ∀ part ∈ parts, Whole part.2) ∧
    ∀ text : String,
      let inner := withoutTag (trim text.toList)
      (∀ comparisons, parse text = .ok comparisons ↔
        (inner = [] ∧ comparisons = []) ∨
        (inner ≠ [] ∧ List.Forall₂ ReadFrom (segments inner) comparisons)) ∧
      (∀ first later, parse text = .ok (first :: later) →
        first.connective = none ∧
          ∀ comparison ∈ later, ∃ connective, comparison.connective = some connective) ∧
      ∀ error, parse text = .error error ↔
        inner ≠ [] ∧ ∃ passed part later, segments inner = passed ++ part :: later ∧
          (∀ earlier ∈ passed, ∃ comparison, ReadFrom earlier comparison) ∧
          (∀ comparison, ¬ ReadFrom part comparison) ∧
          error = .malformedSegment (String.ofList (trim part.2)) := by
  refine ⟨fun _ _ => segments_eq_iff, fun text => ⟨fun _ => parse_eq_ok_iff,
    fun _ _ => connectives_of_parse, fun error => ?_⟩⟩
  rw [parse_eq_error_iff]
  simp only [exists_readFrom_iff, ← not_exists]

/-- Of two letters in front of a placeholder the second is the connective, and the first one
is left to the segment in front of it. -/
theorem segments_division_two :
    let text := "{{a}} ES IGUAL QUE 1 Y  O {{b}} CONTIENE 'c'"
    let first : Comparison := ⟨"a", .equal, "1", none⟩
    let second : Comparison := ⟨"b", .contains, "'c'", some .or⟩
    parse text = .ok [first, second] ∧ first.connective = none ∧
      ∃ connective, second.connective = some connective := by
  intro text first second
  have hparse : parse text = .ok [first, second] := by decide +kernel
  obtain ⟨hfirst, hsecond⟩ := (segments_division.2 text).2.1 first [second] hparse
  exact ⟨hparse, hfirst, hsecond second (by simp)⟩

end Aviso.Condition
