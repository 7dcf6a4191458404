import Aviso.Proofs.Condition.Past

/-!
# The errors of a condition

Only two things about a comparison are errors: an operand without a value, and a
question about a past that the context does not tell.  What the values of the operands
are is never one.

* `Context.Past` says where the context tells what the ticket was before the event.
* `Comparator.compare_eq_error_iff`: a comparator fails for want of the past only.
* `Comparison.Fails` orders the errors of a comparison, and `Comparison.judge_eq_error_iff`
  says that there are no others.
* `Condition.judge_first_error`: the error of a condition is the one of its first
  comparison that has one, whatever the verdicts of the others are.
-/

namespace Aviso

open Json

/-! ## The past -/

/-- The fields of the ticket before the event, as the context tells them. -/
def Context.Past (context : Context) (fields : Members) : Prop :=
  ∃ members, context.get? .previously = some (.object members) ∧
    members.lookup "ticket" = some (.object fields)

namespace Context

variable {context : Context}

theorem ticketBefore?_eq_some_iff {fields : Members} :
    context.ticketBefore? = some fields ↔ context.Past fields := by
  have hobject (value : Value) (members : Members) :
      value.object? = some members ↔ value = .object members := by
    cases value <;> simp [Value.object?]
  simp only [ticketBefore?, Past, Option.bind_eq_bind, Option.bind_eq_some_iff, hobject]
  constructor
  · rintro ⟨_, hpreviously, members, rfl, _, hticket, rfl⟩
    exact ⟨members, hpreviously, hticket⟩
  · rintro ⟨members, hpreviously, hticket⟩
    exact ⟨_, hpreviously, members, rfl, _, hticket, rfl⟩

theorem ticketBefore?_eq_none_iff :
    context.ticketBefore? = none ↔ ∀ fields, ¬ context.Past fields := by
  simp only [Option.eq_none_iff_forall_ne_some, ne_eq, ticketBefore?_eq_some_iff]

end Context

/-! ## Operands -/

section Operands

variable {expression : String} {context : Context}

theorem operandValue_eq_ok_iff {value : Value} :
    operandValue expression context = .ok value ↔
      Expression.value expression.toList context = .ok value := by
  rw [operandValue]
  cases Expression.value expression.toList context <;> simp [Except.mapError]

theorem operandValue_eq_error_iff {failure : Failure} :
    operandValue expression context = .error failure ↔
      ∃ reason, Expression.value expression.toList context = .error reason ∧
        failure = .expression reason := by
  rw [operandValue]
  cases Expression.value expression.toList context <;> simp [Except.mapError, eq_comm]

end Operands

/-! ## One comparison -/

/-- Values of whatever type are compared, unless the past is asked for and not told. -/
theorem Comparator.compare_eq_error_iff {comparator : Comparator} {context : Context}
    {left right : Value} {failure : Failure} :
    comparator.compare context left right = .error failure ↔
      comparator.asksPast = true ∧ (∀ fields, ¬ context.Past fields) ∧
        failure = .missingPast := by
  rw [← Context.ticketBefore?_eq_none_iff]
  cases comparator with
  | changedTo =>
    rw [compare]
    split <;> rename_i hpast <;> simp [hpast, asksPast, eq_comm]
  | changedIs =>
    rw [compare]
    split <;> rename_i hpast
    · simp [hpast, asksPast, eq_comm]
    · split <;> simp [hpast]
  | blankIs =>
    simp only [compare]
    split <;> simp [asksPast]
  | equal | notEqual | contains | startsWith | endsWith => simp [compare, asksPast]

namespace Scope

/-- A question about the past is asked where there is one; anything else always is. -/
def Asks (scope : Scope) (comparator : Comparator) : Prop :=
  comparator.asksPast = true → scope.event = some .modification ∧ scope.entity = some .ticket

theorem asks_iff {scope : Scope} {comparator : Comparator} :
    scope.Asks comparator ↔ (comparator.asksPast && !scope.hasPast) = false := by
  cases hasks : comparator.asksPast <;> simp [Asks, hasPast, hasks]

end Scope

namespace Comparison

/-- The error of a comparison. -/
inductive Fails (comparison : Comparison) (scope : Scope) : Failure → Prop where
  | left {reason : ExpressionError} (hasked : scope.Asks comparison.comparator)
      (hleft : Expression.value comparison.left.toList scope.context = .error reason) :
      Fails comparison scope (.expression reason)
  | right {value : Value} {reason : ExpressionError} (hasked : scope.Asks comparison.comparator)
      (hleft : Expression.value comparison.left.toList scope.context = .ok value)
      (hright : Expression.value comparison.right.toList scope.context = .error reason) :
      Fails comparison scope (.expression reason)
  | past {left right : Value} (hasked : scope.Asks comparison.comparator)
      (hleft : Expression.value comparison.left.toList scope.context = .ok left)
      (hright : Expression.value comparison.right.toList scope.context = .ok right)
      (hasks : comparison.comparator.asksPast = true)
      (hpast : ∀ fields, ¬ scope.context.Past fields) :
      Fails comparison scope .missingPast

variable {comparison : Comparison} {scope : Scope} {failure : Failure}

/-- The left operand is looked at first, then the right one, and then the past. -/
theorem judge_eq_error_iff :
    comparison.judge scope = .error failure ↔ comparison.Fails scope failure := by
  rw [judge]
  split
  · rename_i hgated
    refine iff_of_false (by simp) fun hfails => ?_
    have hasked : scope.Asks comparison.comparator := by cases hfails <;> assumption
    rw [Scope.asks_iff, hgated] at hasked
    exact absurd hasked (by simp)
  · rename_i hasked
    rw [Bool.not_eq_true, ← Scope.asks_iff] at hasked
    simp only [bind_eq_error_iff, operandValue_eq_error_iff, operandValue_eq_ok_iff,
      Comparator.compare_eq_error_iff]
    constructor
    · rintro (⟨reason, hleft, rfl⟩ | ⟨left, hleft, ⟨reason, hright, rfl⟩ | ⟨right, hright,
        ⟨hasks, hpast, rfl⟩ | ⟨holds, _, hnone⟩⟩⟩)
      · exact .left hasked hleft
      · exact .right hasked hleft hright
      · exact .past hasked hleft hright hasks hpast
      · exact absurd hnone (by simp [pure, Except.pure])
    · intro hfails
      cases hfails with
      | left _ hleft => exact .inl ⟨_, hleft, rfl⟩
      | right _ hleft hright => exact .inr ⟨_, hleft, .inl ⟨_, hright, rfl⟩⟩
      | past _ hleft hright hasks hpast =>
        exact .inr ⟨_, hleft, .inr ⟨_, hright, .inl ⟨hasks, hpast, rfl⟩⟩⟩

theorem exists_judge_iff :
    (∃ verdict, comparison.judge scope = .ok verdict) ↔
      ∀ failure, ¬ comparison.Fails scope failure := by
  simp only [← judge_eq_error_iff]
  cases comparison.judge scope <;> simp

end Comparison

/-! ## Conditions -/

/-- A condition has an error exactly when there is nothing to compare or some comparison
has one, and it is the error of the first comparison that has one, with whatever verdicts
the comparisons in front of it have.  The second part says which errors a comparison has,
and the third that none comes from the values of its operands. -/
theorem Condition.judge_first_error (comparisons : List Comparison) (scope : Scope) :
    ((∃ failure, judge comparisons scope = .error failure) ↔
      comparisons = [] ∨
        ∃ comparison ∈ comparisons, ∃ failure, comparison.Fails scope failure) ∧
    (∀ failure, judge comparisons scope = .error failure ↔
      (comparisons = [] ∧ failure = .emptyCondition) ∨
        ∃ passed comparison later, comparisons = passed ++ comparison :: later ∧
          (∀ earlier ∈ passed, ∀ other, ¬ earlier.Fails scope other) ∧
          comparison.Fails scope failure) ∧
    (∀ (comparison : Comparison) (failure : Failure),
      comparison.judge scope = .error failure ↔ comparison.Fails scope failure) ∧
    ∀ (comparator : Comparator) (left right : Value) (failure : Failure),
      comparator.compare scope.context left right = .error failure ↔
        comparator.asksPast = true ∧ (∀ fields, ¬ scope.context.Past fields) ∧
          failure = .missingPast := by
  have hcomparisons := fun comparison failure =>
    @Comparison.judge_eq_error_iff comparison scope failure
  have hcompare := fun comparator left right failure =>
    @Comparator.compare_eq_error_iff comparator scope.context left right failure
  refine ⟨?_, fun failure => ?_, hcomparisons, hcompare⟩
  · obtain rfl | hsome := eq_or_ne comparisons []
    · exact iff_of_true ⟨.emptyCondition, rfl⟩ (.inl rfl)
    · simp only [judge_eq_error_iff hsome, exists_mapM_eq_error_iff, hcomparisons, hsome, false_or]
  · obtain rfl | hsome := eq_or_ne comparisons []
    · have hempty : judge [] scope = .error .emptyCondition := rfl
      simp [hempty, eq_comm]
    · simp only [judge_eq_error_iff hsome, mapM_eq_error_iff, hcomparisons,
        Comparison.exists_judge_iff, hsome, false_and, false_or]

/-- An "or" behind a comparison that holds does not hide an operand without a value. -/
example :
    let holds : Comparison :=
      { left := "1", comparator := .equal, right := "1", connective := none }
    let other : Comparison :=
      { left := "cliente", comparator := .equal, right := "1", connective := some .or }
    Condition.judge [holds, other] { context := {}, event := none, entity := none } =
      .error (.expression (.missingRoot .client)) := by
  decide +kernel

end Aviso
