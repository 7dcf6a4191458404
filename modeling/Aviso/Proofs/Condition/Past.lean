import Aviso.Condition.Parse
import Aviso.Condition.Verdict
import Aviso.Proofs.Results

/-!
# Questions where there is no past

Only the modification of a ticket has a past.  Anywhere else a question about the
past is false before its operands are looked at.

* `Comparison.withoutPast` puts a comparison that never holds in the place of a
  question about the past.
* `Comparison.judge_withoutPast`: where there is no past, that changes no verdict.
* `Condition.judge_map_withoutPast`: so it changes no condition.  Questions about
  the past are no error there, and the errors of a condition are those of its other
  comparisons.
-/

namespace Aviso

theorem Scope.hasPast_eq_false_iff {scope : Scope} :
    scope.hasPast = false ↔ scope.event ≠ some .modification ∨ scope.entity ≠ some .ticket := by
  rw [Scope.hasPast, Bool.and_eq_false_iff, beq_eq_false_iff_ne, beq_eq_false_iff_ne]

namespace Comparison

/-! ## Operands with values -/

/-- A comparison of two values is what its comparator says of them, unless it asks about a
past that is not there. -/
theorem judge_of_values {comparison : Comparison} {scope : Scope} {left right : Json.Value}
    (hgate : (comparison.comparator.asksPast && !scope.hasPast) = false)
    (hleft : operandValue comparison.left scope.context = .ok left)
    (hright : operandValue comparison.right scope.context = .ok right) :
    comparison.judge scope =
      (comparison.comparator.compare scope.context left right).map fun holds =>
        { holds, connective := comparison.connective } := by
  rw [judge, hgate, hleft, hright]
  cases hcompare : comparison.comparator.compare scope.context left right <;>
    simp [hcompare, bind, Except.bind, pure, Except.pure, Except.map]

/-! ## A comparison that never holds -/

/-- The comparison of two different numbers. -/
def never (connective : Option Connective) : Comparison where
  left := "1"
  comparator := .equal
  right := "2"
  connective := connective

example : Condition.parse "1 ES IGUAL QUE 2" = .ok [never none] := by
  decide +kernel

/-- The comparison, or one that never holds if it asks what the ticket was before. -/
def withoutPast (comparison : Comparison) : Comparison :=
  if comparison.comparator.asksPast then never comparison.connective else comparison

theorem judge_never (connective : Option Connective) (scope : Scope) :
    (never connective).judge scope = .ok { holds := false, connective } := by
  have hleft : operandValue "1" scope.context = .ok (.number (.integer 1)) := rfl
  have hright : operandValue "2" scope.context = .ok (.number (.integer 2)) := rfl
  have hunequal : Json.Value.equal (.number (.integer 1)) (.number (.integer 2)) = false := by
    decide +kernel
  have hjudge := @judge_of_values (never connective) scope _ _ rfl hleft hright
  rw [hjudge, never, Comparator.compare, hunequal]
  rfl

/-! ## Questions about the past -/

variable {scope : Scope}

/-- Where there is no past, a question about it is false, whatever its operands are. -/
theorem judge_of_asksPast {comparison : Comparison} (hasks : comparison.comparator.asksPast = true)
    (hpast : scope.hasPast = false) :
    comparison.judge scope = .ok { holds := false, connective := comparison.connective } := by
  simp [judge, hasks, hpast]

theorem judge_withoutPast (hpast : scope.hasPast = false) (comparison : Comparison) :
    comparison.withoutPast.judge scope = comparison.judge scope := by
  rw [withoutPast]
  split
  · rename_i hasks
    rw [judge_never, judge_of_asksPast hasks hpast]
  · rfl

end Comparison

/-! ## Conditions -/

namespace Condition

/-- A condition of one comparison of two values is what its comparator says of them. -/
theorem judge_of_values {comparison : Comparison} {scope : Scope} {left right : Json.Value}
    (hasks : comparison.comparator.asksPast = false)
    (hleft : operandValue comparison.left scope.context = .ok left)
    (hright : operandValue comparison.right scope.context = .ok right) :
    judge [comparison] scope =
      comparison.comparator.compare scope.context left right := by
  have hgate : (comparison.comparator.asksPast && !scope.hasPast) = false := by rw [hasks]; rfl
  rw [judge, List.mapM_cons, List.mapM_nil, Comparison.judge_of_values hgate hleft hright]
  cases comparison.comparator.compare scope.context left right <;> rfl

/-- The error of a condition that compares something is the first one of its
comparisons. -/
theorem judge_eq_error_iff {comparisons : List Comparison} (hsome : comparisons ≠ [])
    {scope : Scope} {failure : Failure} :
    judge comparisons scope = .error failure ↔
      (comparisons.mapM fun comparison => comparison.judge scope) = .error failure := by
  rw [judge]
  cases hread : comparisons.mapM fun comparison => comparison.judge scope with
  | error other => simp [bind, Except.bind]
  | ok verdicts =>
    cases verdicts with
    | nil =>
      have hall := mapM_eq_ok_iff.mp hread
      exact absurd (List.forall₂_nil_right_iff.mp hall) hsome
    | cons first others => simp [Verdict.joinAll, bind, Except.bind]

/-- Where there is no past, a comparison that never holds can stand in the place of
every question about the past: the verdict stays the same, and so does the error.
Each of these questions is false there and no error, and the errors of the
condition are those of the other comparisons. -/
theorem judge_map_withoutPast (comparisons : List Comparison) {scope : Scope}
    (hpast : scope.event ≠ some .modification ∨ scope.entity ≠ some .ticket) :
    judge comparisons scope = judge (comparisons.map Comparison.withoutPast) scope ∧
    (∀ comparison ∈ comparisons, comparison.comparator.asksPast = true →
      comparison.judge scope = .ok { holds := false, connective := comparison.connective }) ∧
    (comparisons ≠ [] → ∀ failure, judge comparisons scope = .error failure ↔
      ((comparisons.filter fun comparison => !comparison.comparator.asksPast).mapM
        fun comparison => comparison.judge scope) = .error failure) := by
  have hnone : scope.hasPast = false := Scope.hasPast_eq_false_iff.mpr hpast
  refine ⟨?_, ?_, ?_⟩
  · have hjudge : ∀ comparison ∈ comparisons,
        comparison.judge scope = comparison.withoutPast.judge scope :=
      fun comparison _ => (Comparison.judge_withoutPast hnone comparison).symm
    rw [judge, judge, List.mapM_map, mapM_congr hjudge]
    rfl
  · intro comparison _ hasks
    exact Comparison.judge_of_asksPast hasks hnone
  · intro hsome failure
    have hfilter := @mapM_filter_eq_error_iff _ _ _ (fun comparison => comparison.judge scope)
      (fun comparison => !comparison.comparator.asksPast) comparisons failure
    rw [judge_eq_error_iff hsome, hfilter]
    intro comparison _ hleft
    have hasks : comparison.comparator.asksPast = true := by simpa using hleft
    exact ⟨_, Comparison.judge_of_asksPast hasks hnone⟩

/-- A question about the past with an operand that has no value is passed over, in
front of a comparison that decides. -/
theorem judge_map_withoutPast_creation :
    let scope : Scope := { context := {}, event := some .creation, entity := some .ticket }
    let question : Comparison :=
      { left := "ticket.estado", comparator := .changedTo, right := "1", connective := none }
    let other : Comparison :=
      { left := "1", comparator := .equal, right := "1", connective := some .or }
    (scope.event ≠ some .modification ∨ scope.entity ≠ some .ticket) ∧
      judge [question, other] scope = judge [.never none, other] scope ∧
      judge [question, other] scope = .ok true := by
  intro scope question other
  have hpast : scope.event ≠ some .modification ∨ scope.entity ≠ some .ticket := by decide
  have hsame := (judge_map_withoutPast [question, other] hpast).1
  exact ⟨hpast, hsame, by decide +kernel⟩

end Condition

end Aviso
