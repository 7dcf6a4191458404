import Aviso.Proofs.Condition.Errors
import Aviso.Proofs.Json.Equality
import Aviso.Proofs.Path
import Aviso.Proofs.Text.Cut

/-!
# What comparators say of each other

Comparators are decided one by one, and their names promise that they hang together: a
text that starts with another one contains it, and what changed to a value has that value
now.  `Comparator.Relates` says what each comparator says of two values, and the promises
are read off it.

* `Comparator.compare_eq_true_iff`: a comparator holds of two values exactly when it relates
  them.
* `Relates.contains_of_startsWith`, `Relates.contains_of_endsWith` and `Relates.of_changedTo`
  are the promises about two values.
* `Scope.holds_eq_true_iff` and `Scope.holds_of_values` carry them to expressions, which have
  to have values, and to the gate in front of questions about the past.
* `Scope.holds_as_named` puts them together.
-/

namespace Aviso

open Text Json

/-! ## Two values -/

theorem hasValue_eq_false_iff {fields : Members} {value : Value} :
    hasValue fields value = false ↔ ∀ field ∈ fields, field.2.equal value = false := by
  simp only [hasValue, List.any_eq_false, Bool.not_eq_true]

theorem ofTexts_eq_true_iff {holds : List Char → List Char → Bool} {left right : Value} :
    ofTexts holds left right = true ↔
      ∃ text part, left = .string text ∧ right = .string part ∧
        holds text.toList part.toList = true := by
  cases left <;> cases right <;> simp [ofTexts]

namespace Comparator

/-- What a comparator says of two values. -/
def Relates (context : Context) (left right : Value) : Comparator → Prop
  | equal => left.equal right = true
  | notEqual => left.equal right = false
  | changedTo =>
    ∃ fields, context.Past fields ∧ left.equal right = true ∧
      ∀ field ∈ fields, field.2.equal right = false
  | changedIs =>
    ∃ fields expected, context.Past fields ∧ right = .bool expected ∧
      (expected = true ↔ ∀ field ∈ fields, field.2.equal left = false)
  | blankIs =>
    ∃ text expected, left = .string text ∧ right = .bool expected ∧
      (expected = true ↔ text = "")
  | contains =>
    ∃ text part, left = .string text ∧ right = .string part ∧ part.toList <:+: text.toList
  | startsWith =>
    ∃ text part, left = .string text ∧ right = .string part ∧ part.toList <+: text.toList
  | endsWith =>
    ∃ text part, left = .string text ∧ right = .string part ∧ part.toList <:+ text.toList

variable {context : Context} {left right : Value}

/-- A comparator holds of two values exactly when it relates them. -/
theorem compare_eq_true_iff {comparator : Comparator} :
    comparator.compare context left right = .ok true ↔
      comparator.Relates context left right := by
  cases comparator with
  | equal => rw [compare, Relates, Except.ok.injEq]
  | notEqual => rw [compare, Relates, Except.ok.injEq, Bool.not_eq_true']
  | changedTo =>
    simp only [compare, Relates, ← Context.ticketBefore?_eq_some_iff, ← hasValue_eq_false_iff]
    cases context.ticketBefore? <;> simp
  | changedIs =>
    simp only [compare, Relates, ← Context.ticketBefore?_eq_some_iff, ← hasValue_eq_false_iff]
    cases context.ticketBefore? with
    | none => simp
    | some fields =>
      cases right with
      | bool expected =>
        simp only [Except.ok.injEq, beq_iff_eq, Option.some.injEq, Value.bool.injEq,
          exists_and_left, exists_eq_left']
        rw [Bool.eq_iff_iff, Bool.not_eq_true']
      | null | number | string | array | object => simp
  | blankIs =>
    simp only [compare, Relates, ← String.isEmpty_iff]
    cases left with
    | string text =>
      cases right with
      | bool expected =>
        simp only [Except.ok.injEq, beq_iff_eq, Value.string.injEq, Value.bool.injEq,
          exists_and_left, exists_eq_left']
        rw [eq_comm, Bool.eq_iff_iff]
      | null | number | string | array | object => simp
    | null | bool | number | array | object => simp
  | contains => simp only [compare, Relates, Except.ok.injEq, ofTexts_eq_true_iff, isSome_cut?_iff]
  | startsWith =>
    simp only [compare, Relates, Except.ok.injEq, ofTexts_eq_true_iff, isSome_after?_iff]
  | endsWith =>
    simp only [compare, Relates, Except.ok.injEq, ofTexts_eq_true_iff, isSome_after?_iff,
      List.reverse_prefix]

theorem compare_changedIs {fields : Members} (hpast : context.Past fields) (expected : Bool) :
    changedIs.compare context left (.bool expected) =
      .ok (expected == !hasValue fields left) := by
  simp only [compare, Context.ticketBefore?_eq_some_iff.mpr hpast]

theorem Relates.contains_of_startsWith (hstarts : startsWith.Relates context left right) :
    contains.Relates context left right := by
  obtain ⟨text, part, hleft, hright, hpart⟩ := hstarts
  exact ⟨text, part, hleft, hright, hpart.isInfix⟩

theorem Relates.contains_of_endsWith (hends : endsWith.Relates context left right) :
    contains.Relates context left right := by
  obtain ⟨text, part, hleft, hright, hpart⟩ := hends
  exact ⟨text, part, hleft, hright, hpart.isInfix⟩

/-- What changed to a value has it now, and no field had it before, whether one asks with
the left operand or with the right one. -/
theorem Relates.of_changedTo (hchanged : changedTo.Relates context left right) :
    equal.Relates context left right ∧ changedIs.Relates context left (.bool true) ∧
      ∃ fields, context.Past fields ∧
        ∀ field ∈ fields, field.2.equal left = false ∧ field.2.equal right = false := by
  obtain ⟨fields, hpast, hequal, hright⟩ := hchanged
  have hleft : ∀ field ∈ fields, field.2.equal left = false := by
    intro field hmem
    rw [← hright field hmem]
    exact Value.equal_congr_right hequal
  refine ⟨hequal, ⟨fields, true, hpast, rfl, iff_of_true rfl hleft⟩, fields, hpast, ?_⟩
  exact fun field hmem => ⟨hleft field hmem, hright field hmem⟩

end Comparator

/-! ## Two expressions -/

/-- The verdict of a comparator on two expressions. -/
def Scope.holds (scope : Scope) (left : String) (comparator : Comparator) (right : String) :
    Except Failure Bool :=
  (Comparison.judge { left, comparator, right, connective := none } scope).map Verdict.holds

/-- The connective of a comparison has no part in its verdict. -/
theorem Comparison.judge_eq_map_holds (comparison : Comparison) (scope : Scope) :
    comparison.judge scope =
      (scope.holds comparison.left comparison.comparator comparison.right).map fun holds =>
        { holds, connective := comparison.connective } := by
  unfold Scope.holds Comparison.judge
  split
  · rfl
  · cases operandValue comparison.left scope.context with
    | error failure => rfl
    | ok left =>
      cases operandValue comparison.right scope.context with
      | error failure => rfl
      | ok right =>
        cases hcompare : comparison.comparator.compare scope.context left right <;>
          simp [hcompare, bind, Except.bind, pure, Except.pure, Except.map]

namespace Scope

section Expressions

variable {scope : Scope} {left right : String} {comparator : Comparator}

/-- Operands with values are compared where the comparator asks. -/
theorem holds_of_values {first second : Value} (hasks : scope.Asks comparator)
    (hleft : Expression.value left.toList scope.context = .ok first)
    (hright : Expression.value right.toList scope.context = .ok second) :
    scope.holds left comparator right = comparator.compare scope.context first second := by
  rw [← operandValue_eq_ok_iff] at hleft hright
  have hjudge := @Comparison.judge_of_values { left, comparator, right, connective := none } scope
    _ _ (asks_iff.mp hasks) hleft hright
  rw [holds, hjudge]
  cases comparator.compare scope.context first second <;> rfl

theorem holds_eq_true_iff :
    scope.holds left comparator right = .ok true ↔
      scope.Asks comparator ∧
      ∃ first second, Expression.value left.toList scope.context = .ok first ∧
        Expression.value right.toList scope.context = .ok second ∧
        comparator.Relates scope.context first second := by
  constructor
  · intro hholds
    obtain ⟨verdict, hjudge, hverdict⟩ := map_eq_ok_iff.mp hholds
    unfold Comparison.judge at hjudge
    split at hjudge
    · rw [← Except.ok.inj hjudge] at hverdict
      exact absurd hverdict (by simp)
    · rename_i hgate
      simp only [bind_eq_ok_iff, operandValue_eq_ok_iff] at hjudge
      obtain ⟨first, hleft, second, hright, holds, hcompare, hresult⟩ := hjudge
      obtain rfl : holds = true := by
        rw [← Except.ok.inj hresult] at hverdict
        exact hverdict
      exact ⟨asks_iff.mpr (Bool.not_eq_true _ ▸ hgate), first, second, hleft, hright,
        Comparator.compare_eq_true_iff.mp hcompare⟩
  · rintro ⟨hasks, first, second, hleft, hright, hrelates⟩
    rw [holds_of_values hasks hleft hright]
    exact Comparator.compare_eq_true_iff.mpr hrelates

/-- Where one comparator says what another one says of the same values, so it does of
expressions. -/
theorem holds_of_relates {other : Comparator}
    (hpast : other.asksPast = true → comparator.asksPast = true)
    (hrelates : ∀ {first second}, comparator.Relates scope.context first second →
      other.Relates scope.context first second)
    (hholds : scope.holds left comparator right = .ok true) :
    scope.holds left other right = .ok true := by
  rw [holds_eq_true_iff] at hholds ⊢
  obtain ⟨hasks, first, second, hleft, hright, hfirst⟩ := hholds
  exact ⟨fun hother => hasks (hpast hother), first, second, hleft, hright, hrelates hfirst⟩

theorem holds_notEqual :
    scope.holds left .notEqual right = (scope.holds left .equal right).map (!·) := by
  unfold holds Comparison.judge
  cases operandValue left scope.context with
  | error failure => rfl
  | ok first =>
    cases operandValue right scope.context with
    | error failure => rfl
    | ok second => rfl

/-- The truth words are expressions with the two truth values. -/
theorem value_truth {word : String} (hword : word = trueWord ∨ word = falseWord)
    (context : Context) :
    Expression.value word.toList context = .ok (.bool (word == trueWord)) := by
  apply Expression.value_of_literal _ _ (literal?_truth hword)
  all_goals rcases hword with rfl | rfl <;> decide

section Value

variable {value : Value}

/-- A question about the past that expects a truth value. -/
theorem holds_changedIs {fields : Members} {word : String}
    (hasks : scope.Asks .changedIs)
    (hvalue : Expression.value left.toList scope.context = .ok value)
    (hpast : scope.context.Past fields) (hword : word = trueWord ∨ word = falseWord) :
    scope.holds left .changedIs word = .ok ((word == trueWord) == !hasValue fields value) := by
  rw [holds_of_values hasks hvalue (value_truth hword _), Comparator.compare_changedIs hpast]

theorem holds_blankIs {word : String}
    (hvalue : Expression.value left.toList scope.context = .ok value)
    (hword : word = trueWord ∨ word = falseWord) :
    scope.holds left .blankIs word =
      Comparator.blankIs.compare scope.context value (.bool (word == trueWord)) :=
  holds_of_values (fun hasks => absurd hasks (by decide)) hvalue (value_truth hword _)

end Value

/-- What changed to a value has it now, has a value that no field had before, and changed. -/
theorem of_holds_changedTo (hholds : scope.holds left .changedTo right = .ok true) :
    scope.holds left .equal right = .ok true ∧
    (∃ fields first second, scope.context.Past fields ∧
      Expression.value left.toList scope.context = .ok first ∧
      Expression.value right.toList scope.context = .ok second ∧
      ∀ field ∈ fields, field.2.equal first = false ∧ field.2.equal second = false) ∧
    scope.holds left .changedIs trueWord = .ok true := by
  refine ⟨holds_of_relates (by decide) (fun hchanged => hchanged.of_changedTo.1) hholds, ?_⟩
  obtain ⟨hasks, first, second, hleft, hright, hchanged⟩ := holds_eq_true_iff.mp hholds
  obtain ⟨_, hnew, fields, hpast, hfields⟩ := hchanged.of_changedTo
  refine ⟨⟨fields, first, second, hpast, hleft, hright, hfields⟩, ?_⟩
  exact holds_eq_true_iff.mpr
    ⟨fun _ => hasks rfl, first, .bool true, hleft, value_truth (.inl rfl) _, hnew⟩

end Expressions

/-- Comparators go together as their names say, for every two expressions.  In turn: the
connective of a comparison has no part in its verdict; inequality is the negation of
equality, with its errors; a text contains what it starts or ends with; what changed to a
value is equal to it, no field had that value before, and it changed; of the two answers to
the question whether something changed one is true, and so of those to the question whether
a text is blank; and what is no text is neither blank nor not. -/
theorem holds_as_named (scope : Scope) (left right : String) :
    (∀ comparator connective,
      Comparison.judge { left, comparator, right, connective } scope =
        (scope.holds left comparator right).map fun holds => { holds, connective }) ∧
    scope.holds left .notEqual right = (scope.holds left .equal right).map (!·) ∧
    (scope.holds left .startsWith right = .ok true ∨
        scope.holds left .endsWith right = .ok true →
      scope.holds left .contains right = .ok true) ∧
    (scope.holds left .changedTo right = .ok true →
      scope.holds left .equal right = .ok true ∧
      (∃ fields first second, scope.context.Past fields ∧
        Expression.value left.toList scope.context = .ok first ∧
        Expression.value right.toList scope.context = .ok second ∧
        ∀ field ∈ fields, field.2.equal first = false ∧ field.2.equal second = false) ∧
      scope.holds left .changedIs trueWord = .ok true) ∧
    (∀ value fields, scope.event = some .modification → scope.entity = some .ticket →
      Expression.value left.toList scope.context = .ok value → scope.context.Past fields →
      ∃ changed, scope.holds left .changedIs trueWord = .ok changed ∧
        scope.holds left .changedIs falseWord = .ok (!changed) ∧
        (changed = true ↔ ∀ field ∈ fields, field.2.equal value = false)) ∧
    (∀ text, Expression.value left.toList scope.context = .ok (.string text) →
      ∃ blank, scope.holds left .blankIs trueWord = .ok blank ∧
        scope.holds left .blankIs falseWord = .ok (!blank) ∧ (blank = true ↔ text = "")) ∧
    ∀ value, Expression.value left.toList scope.context = .ok value →
      (∀ text, value ≠ .string text) →
      scope.holds left .blankIs trueWord = .ok false ∧
        scope.holds left .blankIs falseWord = .ok false := by
  refine ⟨fun comparator connective => ?_, holds_notEqual, ?_, of_holds_changedTo, ?_, ?_, ?_⟩
  · exact Comparison.judge_eq_map_holds { left, comparator, right, connective } scope
  · rintro (hstarts | hends)
    · exact holds_of_relates (by decide) Comparator.Relates.contains_of_startsWith hstarts
    · exact holds_of_relates (by decide) Comparator.Relates.contains_of_endsWith hends
  · intro value fields hevent hentity hvalue hpast
    have hasks : scope.Asks .changedIs := fun _ => ⟨hevent, hentity⟩
    refine ⟨!hasValue fields value, ?_, ?_, ?_⟩
    · rw [holds_changedIs hasks hvalue hpast (.inl rfl)]
      simp
    · rw [holds_changedIs hasks hvalue hpast (.inr rfl)]
      simp [trueWord, falseWord]
    · rw [Bool.not_eq_true', hasValue_eq_false_iff]
  · intro text hvalue
    refine ⟨text.isEmpty, ?_, ?_, String.isEmpty_iff⟩
    · rw [holds_blankIs hvalue (.inl rfl), Comparator.compare]
      simp
    · rw [holds_blankIs hvalue (.inr rfl), Comparator.compare]
      simp [trueWord, falseWord]
  · intro value hvalue hother
    rw [holds_blankIs hvalue (.inl rfl), holds_blankIs hvalue (.inr rfl)]
    cases value with
    | string text => exact absurd rfl (hother text)
    | null | bool | number | array | object => exact ⟨rfl, rfl⟩

/-- A ticket that was closed, and no text. -/
theorem holds_as_named_closed :
    let before : Members := [("estado", .string "ABIERTO")]
    let ticket : Value := .object [("estado", .string "CERRADO")]
    let scope : Scope := {
      context := ⟨[("previamente", .object [("ticket", .object before)]), ("ticket", ticket)]⟩
      event := some .modification
      entity := some .ticket }
    scope.holds "ticket.estado" .startsWith "'CERR'" = .ok true ∧
      scope.holds "ticket.estado" .contains "'CERR'" = .ok true ∧
      scope.holds "ticket.estado" .changedTo "'CERRADO'" = .ok true ∧
      scope.holds "ticket.estado" .equal "'CERRADO'" = .ok true ∧
      Expression.value "ticket.estado".toList scope.context = .ok (.string "CERRADO") ∧
      scope.context.Past before ∧
      scope.holds "ticket.estado" .changedIs trueWord = .ok true ∧
      scope.holds "ticket.estado" .changedIs falseWord = .ok false ∧
      scope.holds "ticket.estado" .blankIs falseWord = .ok true ∧
      Expression.value "ticket".toList scope.context = .ok ticket ∧
      scope.holds "ticket" .blankIs falseWord = .ok false := by
  intro before ticket scope
  have hvalue : Expression.value "ticket.estado".toList scope.context = .ok (.string "CERRADO") :=
    rfl
  have hticket : Expression.value "ticket".toList scope.context = .ok ticket := rfl
  have hpast : scope.context.Past before := ⟨[("ticket", .object before)], rfl, rfl⟩
  have hstarts : scope.holds "ticket.estado" .startsWith "'CERR'" = .ok true := by decide +kernel
  have hchanged : scope.holds "ticket.estado" .changedTo "'CERRADO'" = .ok true := by
    decide +kernel
  have hcontains := (holds_as_named scope "ticket.estado" "'CERR'").2.2.1 (.inl hstarts)
  obtain ⟨_, _, _, hchanges, hanswers, hblank, _⟩ :=
    holds_as_named scope "ticket.estado" "'CERRADO'"
  obtain ⟨hequal, _, hchangedIs⟩ := hchanges hchanged
  obtain ⟨changed, hyes, hno, _⟩ := hanswers _ before rfl rfl hvalue hpast
  obtain rfl : true = changed := Except.ok.inj (hchangedIs.symm.trans hyes)
  obtain ⟨blank, _, hfilled, hempty⟩ := hblank _ hvalue
  obtain rfl : blank = false := Bool.eq_false_iff.mpr fun hnone => by simpa using hempty.mp hnone
  obtain ⟨_, hother⟩ := (holds_as_named scope "ticket" "'CERRADO'").2.2.2.2.2.2 _ hticket
    fun text => by simp [ticket]
  exact ⟨hstarts, hcontains, hchanged, hequal, hvalue, hpast, hchangedIs, hno, hfilled, hticket,
    hother⟩

end Scope

end Aviso
