import Aviso.Proofs.Body
import Aviso.Proofs.Condition.Errors
import Aviso.Proofs.Condition.Layout
import Aviso.Proofs.Json.Equality

/-!
# Placeholders of bodies and of conditions

A body takes whatever stands between double braces for a placeholder, and a condition
only what stands there on one line.  Comparing a placeholder with itself tells the two
apart: it holds where a body with the placeholder can be filled in.

* `Token.read_brace`: at a brace a condition reads a placeholder or nothing.
* `Condition.parse_print_singleton`: a printed comparison is one segment, whatever its
  expressions are.
* `AsOperand` is what a condition reads between braces as one operand: a text on one
  line, or a quotation, which is then a literal and no placeholder.
* `Condition.parse_withItself_iff`: a condition reads exactly these as they are written.
* `Condition.judge_withItself`: the comparison holds if the expression has a value, and
  fails with its error, as a body with the placeholder does.
-/

namespace Aviso

open Text Json

/-- A text on one line, or one between quotes of one kind that does not hold that quote. -/
def AsOperand (expression : List Char) : Prop :=
  '\n' ∉ expression ∨
    ∃ quote inside, (quote = '\'' ∨ quote = '"') ∧ quote ∉ inside ∧
      expression = quote :: inside ++ [quote]

/-! ## Tokens at braces and quotes -/

namespace Token

/-- Neither a literal nor a comparator begins with a brace. -/
theorem read_brace {c : Char} (hbrace : c = '{' ∨ c = '}') (before : Option Char)
    (text : List Char) :
    read before (c :: text) = (readPlaceholder? (c :: text)).map fun (expression, behind) =>
      (placeholder (String.ofList expression), behind) := by
  have hliteral : readLiteral? before (c :: text) = none := by
    cases hread : readLiteral? before (c :: text) with
    | none => rfl
    | some found =>
      obtain ⟨htext, hspelt, _⟩ := stands_of_readLiteral? hread
      obtain ⟨d, rest, hwritten, hhead⟩ := exists_cons_literal hspelt
      rw [hwritten] at htext
      obtain rfl := (List.cons.inj htext).1
      rcases hbrace with rfl | rfl
      · exact absurd rfl (@ne_of_literal _ '{' hhead (by decide))
      · exact absurd rfl (@ne_of_literal _ '}' hhead (by decide))
  have hcomparator : afterAny? Comparator.byKeyword (c :: text) = none := by
    have hwords : ∀ marker ∈ Comparator.byKeyword,
        marker.1.head?.any (fun d => d != '{' && d != '}') = true := by
      decide
    rw [afterAny?_eq_none_iff]
    rintro marker hmem ⟨rest, hrest⟩
    have hhead := hwords marker hmem
    obtain ⟨hnone, _⟩ | ⟨word, hword, _⟩ := List.append_eq_cons_iff.mp hrest
    · rw [hnone] at hhead
      exact absurd hhead (by decide)
    · rw [hword, List.head?_cons, Option.any_some] at hhead
      rcases hbrace with rfl | rfl <;> exact absurd hhead (by decide)
  rw [read, hliteral, hcomparator]
  cases readPlaceholder? (c :: text) <;> rfl

/-- Nothing is read at closing braces. -/
theorem silent_closing (before : Option Char) (rest : List Char) :
    Silent read before Placeholder.closing rest := by
  apply silent_of_forall
  intro c hmem before text
  obtain rfl : c = '}' := by simpa [Placeholder.closing] using hmem
  rw [read_brace (.inr rfl), readPlaceholder?, Placeholder.read?_of_ne (by decide)]
  rfl

/-- One brace alone opens no placeholder. -/
theorem readPlaceholder?_of_not_begins {text : List Char} (hbrace : ¬ ['{'] <+: text) :
    readPlaceholder? ('{' :: text) = none := by
  have hopen : after? Placeholder.opening ('{' :: text) = none := by
    rw [after?_eq_none_iff, Placeholder.opening, List.cons_prefix_cons]
    exact fun hbegins => hbrace hbegins.2
  rw [readPlaceholder?, Placeholder.read?, hopen]
  rfl

/-- Nothing is read at the opening braces of a placeholder that goes over lines. -/
theorem silent_opening {slot : Slot} (hline : '\n' ∈ slot.expression)
    (hbrace : ∀ rest, ¬ ['{'] <+: slot.expression ++ rest) (before : Option Char)
    (rest : List Char) :
    Silent read before Placeholder.opening (slot.expression ++ (Placeholder.closing ++ rest)) := by
  have hprint : Placeholder.read?
      ('{' :: '{' :: (slot.expression ++ (Placeholder.closing ++ rest))) =
        some (slot.expression, rest) := by
    have hread := slot.read?_print rest
    rw [Slot.print, Placeholder.print, List.append_assoc, List.append_assoc] at hread
    exact hread
  have hlines : readPlaceholder?
      ('{' :: '{' :: (slot.expression ++ (Placeholder.closing ++ rest))) = none := by
    rw [readPlaceholder?, hprint]
    simp [hline]
  rw [Placeholder.opening, silent_cons_iff, silent_cons_iff, read_brace (.inl rfl),
    read_brace (.inl rfl)]
  simp only [List.cons_append, List.nil_append, hlines, readPlaceholder?_of_not_begins (hbrace _)]
  exact ⟨rfl, rfl, silent_nil _ _ _⟩

/-- A quotation is read as it is written, whatever stands around it. -/
theorem read_quotation {quote : Char} {inside : List Char}
    (hquote : quote = '\'' ∨ quote = '"') (hfree : quote ∉ inside) (before : Option Char)
    (behind : List Char) :
    read before (quote :: inside ++ [quote] ++ behind) =
      some (literal (String.ofList (quote :: inside ++ [quote])), behind) := by
  have hbrace : quote ≠ '{' := by
    rcases hquote with rfl | rfl <;> decide
  have hplaceholder : readPlaceholder? (quote :: inside ++ [quote] ++ behind) = none := by
    rw [List.cons_append, List.cons_append, readPlaceholder?, Placeholder.read?_of_ne hbrace]
    rfl
  rw [read, hplaceholder, readLiteral?, readQuotation?_append hquote hfree]
  rfl

theorem not_line_of_solid {text : List Char} (hsolid : Connective.Solid text) : '\n' ∉ text :=
  fun hmem => absurd (hsolid '\n' hmem) (by decide)

/-- An operand is a text on one line or a quotation. -/
theorem asOperand_of_read {before : Option Char} {text behind : List Char} {token : Token}
    {expression : List Char} (hread : read before text = some (token, behind))
    (hoperand : token.operand? = some (String.ofList expression)) : AsOperand expression := by
  obtain ⟨taken, _, hspelt, _⟩ := exists_stands_of_read hread
  cases hspelt with
  | placeholder _ _ _ hline =>
    obtain rfl := String.ofList_injective (Option.some.inj hoperand)
    exact .inl hline
  | quotation hquote hfree =>
    obtain rfl := String.ofList_injective (Option.some.inj hoperand)
    exact .inr ⟨_, _, hquote, hfree, rfl⟩
  | number hsign hwhole hfraction =>
    obtain rfl := String.ofList_injective (Option.some.inj hoperand)
    exact .inl (not_line_of_solid (Connective.solid_number hsign hwhole hfraction))
  | truth hword =>
    obtain rfl := String.ofList_injective ((String.ofList_toList).trans (Option.some.inj hoperand))
    exact .inl (not_line_of_solid (Connective.solid_truth hword))
  | comparator => exact absurd hoperand (by simp [operand?])

end Token

/-! ## One printed comparison -/

namespace Comparison

variable {comparison : Comparison}

theorem print_eq (comparison : Comparison) :
    comparison.print = Placeholder.print comparison.left.toList ++
      ([' '] ++ (comparison.comparator.keyword.toList ++
        ([' '] ++ Placeholder.print comparison.right.toList))) := by
  simp [print]

/-- No joint begins in a printed comparison without further opening braces. -/
theorem undivided_print (hleft : ¬ Placeholder.opening <:+: comparison.left.toList)
    (hright : ¬ Placeholder.opening <:+: comparison.right.toList) :
    Undivided comparison.print [] := by
  have hspelling : comparison.comparator.keyword ∈ comparison.comparator.keywords :=
    List.mem_cons_self
  have hbrace : ∀ d ∈ (Placeholder.print comparison.right.toList ++ []).head?,
      Connective.ofKeyword? d = none := by
    intro d hmem
    obtain rfl := Option.some.inj hmem
    decide
  rw [undivided_iff_silent none, print_eq]
  simp only [silent_append_iff, List.append_assoc]
  exact ⟨Connective.silent_print hleft _ _,
    Connective.silent_blanks (by decide) (Connective.ofKeyword?_head_keyword hspelling _) _,
    Connective.silent_keyword hspelling _ _, Connective.silent_blanks (by decide) hbrace _,
    Connective.silent_print hright _ _⟩

theorem trimmed_print (comparison : Comparison) : Trimmed comparison.print := by
  refine ⟨rfl, ?_⟩
  simp only [print, Placeholder.print, List.reverse_append, List.reverse_cons]
  rfl

end Comparison

namespace Condition

theorem print_singleton (comparison : Comparison) :
    print [comparison] = String.ofList comparison.print := by
  rw [print, List.flatMap_nil, List.append_nil]

/-- A printed comparison is one segment. -/
theorem parse_print_singleton {comparison : Comparison}
    (hleft : ¬ Placeholder.opening <:+: comparison.left.toList)
    (hright : ¬ Placeholder.opening <:+: comparison.right.toList) :
    parse (print [comparison]) =
      (readSegment none comparison.print).map fun comparison => [comparison] := by
  have htext : withoutTag (trim (print [comparison]).toList) = comparison.print := by
    rw [print_singleton, String.toList_ofList, trim_eq_self comparison.trimmed_print]
    rfl
  have hsome : withoutTag (trim (print [comparison]).toList) ≠ [] := by
    rw [htext]
    exact List.cons_ne_nil _ _
  have hdivided : Divided Connective.read none comparison.print [] comparison.print :=
    .last ((undivided_iff_silent none).mp (Comparison.undivided_print hleft hright))
  rw [parse_eq_mapM hsome, htext, segments_of_divided hdivided, segmentsOf]
  cases hread : readSegment none comparison.print with
  | error error => exact mapM_cons_of_error hread []
  | ok other => exact mapM_cons_of_ok hread []

end Condition

/-! ## A placeholder compared with itself -/

/-- Compares what stands between the braces of a placeholder with itself. -/
def Comparison.withItself (expression : List Char) : Comparison where
  left := String.ofList expression
  comparator := .equal
  right := String.ofList expression
  connective := none

namespace Condition

variable {slot : Slot}

/-- The quotations of a comparison are its operands, although the braces around them are
none of placeholders. -/
theorem finds_quotations {quote : Char} {inside : List Char} (hline : '\n' ∈ slot.expression)
    (hquote : quote = '\'' ∨ quote = '"') (hfree : quote ∉ inside)
    (hexpression : slot.expression = quote :: inside ++ [quote]) :
    finds Token.read (Comparison.withItself slot.expression).print =
      [.literal (String.ofList slot.expression), .comparator .equal,
        .literal (String.ofList slot.expression)] := by
  have hsome : slot.expression ≠ [] := by simp [hexpression]
  have hbrace (rest : List Char) : ¬ ['{'] <+: slot.expression ++ rest := by
    rw [hexpression]
    intro hbegins
    obtain ⟨rfl, _⟩ := List.cons_prefix_cons.mp hbegins
    exact absurd hquote (by decide)
  have hread (before : Option Char) (behind : List Char) :
      Token.read before (slot.expression ++ behind) =
        some (.literal (String.ofList slot.expression), behind) := by
    rw [hexpression]
    exact Token.read_quotation hquote hfree before behind
  have hblank (before : Option Char) (rest : List Char) : Silent Token.read before [' '] rest :=
    Token.silent_blanks (by decide) before rest
  have hkeyword : Comparator.equal.keyword ∈ Comparator.equal.keywords := by decide
  have htext : (Comparison.withItself slot.expression).print =
      Placeholder.opening ++ (slot.expression ++ ((Placeholder.closing ++ [' ']) ++
        (Comparator.equal.keyword.toList ++ (([' '] ++ Placeholder.opening) ++
          (slot.expression ++ Placeholder.closing))))) := by
    simp [Comparison.print, Comparison.withItself, Placeholder.print]
  have hdivided : Divided Token.read none (Comparison.withItself slot.expression).print
      [⟨Placeholder.opening, slot.expression, .literal (String.ofList slot.expression)⟩,
        ⟨Placeholder.closing ++ [' '], Comparator.equal.keyword.toList, .comparator .equal⟩,
        ⟨[' '] ++ Placeholder.opening, slot.expression, .literal (String.ofList slot.expression)⟩]
      Placeholder.closing := by
    rw [htext]
    apply Divided.found hsome (Token.silent_opening hline hbrace _ _) (hread _ _)
    apply Divided.found (by decide)
      (silent_append_iff.mpr ⟨Token.silent_closing _ _, hblank _ _⟩)
      (Token.read_comparator hkeyword _ _)
    apply Divided.found hsome
      (silent_append_iff.mpr ⟨hblank _ _, Token.silent_opening hline hbrace _ []⟩) (hread _ _)
    exact .last (Token.silent_closing _ _)
  rw [hdivided.finds_eq]
  rfl

theorem parse_withItself (hopening : ¬ Placeholder.opening <:+: slot.expression) :
    parse (print [Comparison.withItself slot.expression]) =
      (readSegment none (Comparison.withItself slot.expression).print).map
        fun comparison => [comparison] := by
  have hfree : ¬ Placeholder.opening <:+: (String.ofList slot.expression).toList := by
    rw [String.toList_ofList]
    exact hopening
  exact parse_print_singleton hfree hfree

/-- A condition reads a text between braces as an operand if it is on one line or a
quotation, and no other text. -/
theorem parse_withItself_iff (hopening : ¬ Placeholder.opening <:+: slot.expression) :
    parse (print [Comparison.withItself slot.expression]) =
        .ok [Comparison.withItself slot.expression] ↔ AsOperand slot.expression := by
  constructor
  · intro hparse
    rw [parse_withItself hopening] at hparse
    obtain ⟨other, hread, hother⟩ := map_eq_ok_iff.mp hparse
    obtain rfl := (List.cons.inj hother).1
    obtain ⟨_, left, right, htokens, hleft, _⟩ := readSegment_eq_ok_iff.mp hread
    have hmem : left ∈ finds Token.read (Comparison.withItself slot.expression).print := by
      rw [htokens]
      exact List.mem_cons_self
    obtain ⟨_, _, _, htoken⟩ := exists_read_of_mem_finds Token.takes_read hmem
    exact Token.asOperand_of_read htoken hleft
  · intro hoperand
    by_cases hline : '\n' ∈ slot.expression
    · obtain ⟨quote, inside, hquote, hfree, hexpression⟩ :=
        hoperand.resolve_left (not_not.mpr hline)
      have hfinds := finds_quotations hline hquote hfree hexpression
      have hread : readSegment none (Comparison.withItself slot.expression).print =
          .ok (Comparison.withItself slot.expression) :=
        readSegment_eq_ok_iff.mpr ⟨rfl, _, _, hfinds, rfl, rfl⟩
      rw [parse_withItself hopening, hread]
      rfl
    · have henclosable : Enclosable (String.ofList slot.expression) := by
        constructor <;> rw [String.toList_ofList]
        exacts [slot.trimmed, hline, hopening, slot.closing_free, slot.open_ended]
      exact parse_print rfl (by simp) (List.forall_mem_singleton.mpr ⟨henclosable, henclosable⟩)

/-- Any other text makes the condition an error, or another comparison. -/
theorem parse_withItself_of_not (hopening : ¬ Placeholder.opening <:+: slot.expression)
    (hoperand : ¬ AsOperand slot.expression) :
    let text := print [Comparison.withItself slot.expression]
    parse text = .error (.malformedSegment text) ∨
      ∃ other, other ≠ Comparison.withItself slot.expression ∧ parse text = .ok [other] := by
  intro text
  have hparse : parse text = _ := parse_withItself hopening
  cases hread : readSegment none (Comparison.withItself slot.expression).print with
  | error error =>
    obtain ⟨_, rfl⟩ := readSegment_eq_error_iff.mp hread
    rw [trim_eq_self (Comparison.trimmed_print _), ← print_singleton] at hread
    rw [hread] at hparse
    exact .inl hparse
  | ok other =>
    rw [hread] at hparse
    refine .inr ⟨other, ?_, hparse⟩
    rintro rfl
    exact hoperand ((parse_withItself_iff hopening).mp hparse)

/-- A value is equal to itself, and an expression without one is the error of the left
operand. -/
theorem judge_withItself (expression : List Char) (scope : Scope) :
    judge [Comparison.withItself expression] scope =
      ((Expression.value expression scope.context).map fun _ => true).mapError .expression := by
  have hexpression : (String.ofList expression).toList = expression := String.toList_ofList
  cases hvalue : Expression.value expression scope.context with
  | ok value =>
    rw [← hexpression] at hvalue
    have hoperand := operandValue_eq_ok_iff.mpr hvalue
    rw [@judge_of_values (Comparison.withItself expression) scope value value rfl hoperand hoperand]
    exact congrArg Except.ok (Value.equal_refl value)
  | error reason =>
    rw [← hexpression] at hvalue
    have hasked : scope.Asks (Comparison.withItself expression).comparator := by
      intro hasks
      exact absurd hasks (by simp [Comparison.withItself, Comparator.asksPast])
    have hfails : (Comparison.withItself expression).Fails scope (.expression reason) :=
      .left hasked hvalue
    have hjudge := Comparison.judge_eq_error_iff.mpr hfails
    exact (judge_eq_error_iff (by simp)).mpr (mapM_cons_of_error hjudge [])

/-- A condition reads a placeholder that is compared with itself as it is written exactly
when its expression is an operand, and otherwise as an error or as another comparison.  The
comparison holds where a body that is the placeholder can be filled in, and fails with the
error of that body. -/
theorem withItself_as_filled (slot : Slot)
    (hopening : ¬ Placeholder.opening <:+: slot.expression) (scope : Scope) :
    let comparison := Comparison.withItself slot.expression
    let text := print [comparison]
    let filled := Body.fill (String.ofList slot.print) scope.context
    (parse text = .ok [comparison] ↔ AsOperand slot.expression) ∧
    (¬ AsOperand slot.expression → parse text = .error (.malformedSegment text) ∨
      ∃ other, other ≠ comparison ∧ parse text = .ok [other]) ∧
    ((∃ body, filled = .ok body) ↔ judge [comparison] scope = .ok true) ∧
    ∀ reason, filled = .error reason ↔ judge [comparison] scope = .error (.expression reason) := by
  intro comparison text filled
  have hfilled : filled = _ := Body.fill_print slot scope.context
  have hjudge : judge [comparison] scope = _ := judge_withItself slot.expression scope
  refine ⟨parse_withItself_iff hopening, parse_withItself_of_not hopening, ?_, fun reason => ?_⟩
  all_goals
    rw [hfilled, hjudge]
    cases Expression.value slot.expression scope.context <;> simp [Except.map, Except.mapError]

/-- A quotation that goes over lines is read, although its braces are none of a
placeholder. -/
theorem withItself_as_filled_quotation :
    let slot : Slot := ⟨"'a\nb'".toList, by decide, by decide, by decide⟩
    let comparison := Comparison.withItself slot.expression
    ¬ Placeholder.opening <:+: slot.expression ∧ parse (print [comparison]) = .ok [comparison] := by
  intro slot comparison
  have hopening : ¬ Placeholder.opening <:+: slot.expression := by decide
  have hoperand : AsOperand slot.expression :=
    .inr ⟨'\'', "a\nb".toList, .inl rfl, by decide, by decide⟩
  exact ⟨hopening, (withItself_as_filled slot hopening ⟨{}, none, none⟩).1.mpr hoperand⟩

/-- A member whose name goes over lines has a value in a body, and cannot be named in a
condition. -/
theorem parse_withItself_lines :
    let expression := "ticket.a\nb".toList
    let context : Context := ⟨[("ticket", .object [("a\nb", .number (.integer 1))])]⟩
    let text := print [Comparison.withItself expression]
    Body.fill (String.ofList (Placeholder.print expression)) context = .ok "1" ∧
      parse text = .error (.malformedSegment text) := by
  decide +kernel

/-- What stands on the last line can be read in the place of the whole. -/
example :
    parse (print [Comparison.withItself "ticket.a\n'b'".toList]) =
      .ok [⟨"'b'", .equal, "'b'", none⟩] := by
  decide +kernel

end Condition

end Aviso
