import Mathlib.Data.List.Forall2
import Mathlib.Data.List.Induction
import Aviso.Condition.Verdict

/-!
# Verdicts joined from left to right

No connective binds more tightly than the other: each one joins its verdict to the
verdict of everything in front of it.

* `Decided` says which verdict decides: one that holds, that stands first or is joined
  by an "or", and behind which every other one that is not joined by an "or" holds.
* `join_eq_true_iff` and `decided_concat_iff` say what one more verdict does to the
  result and to `Decided`, in the same words.
* `joinAll_concat` and `joinAll_eq_true_iff`: so the result is true exactly when some
  verdict decides, by induction on the verdicts from the left to the right.
* `joinAll_mono`: verdicts that become true make no result false.
-/

namespace Aviso.Verdict

/-! ## The verdict that decides -/

/-- A result that was true before the verdict is true behind it. -/
def Keeps (verdict : Verdict) : Prop :=
  verdict.connective ≠ some .or → verdict.holds = true

/-- A verdict that makes the result true, between the ones before and behind it. -/
structure Decides (passed : List Verdict) (deciding : Verdict) (later : List Verdict) : Prop where
  holds : deciding.holds = true
  joins : passed = [] ∨ deciding.connective = some .or
  kept : ∀ next ∈ later, next.Keeps

/-- Some verdict decides. -/
def Decided (verdicts : List Verdict) : Prop :=
  ∃ passed deciding later,
    verdicts = passed ++ deciding :: later ∧ Decides passed deciding later

theorem decided_singleton_iff {verdict : Verdict} :
    Decided [verdict] ↔ verdict.holds = true := by
  constructor
  · rintro ⟨passed, deciding, later, hverdicts, hdecides⟩
    obtain ⟨rfl, hrest⟩ | ⟨front, rfl, hrest⟩ := List.cons_eq_append_iff.mp hverdicts
    · obtain ⟨rfl, rfl⟩ := List.cons.inj hrest
      exact hdecides.holds
    · exact absurd hrest (by simp)
  · intro hholds
    exact ⟨[], verdict, [], rfl, hholds, .inl rfl, by simp⟩

/-- One more verdict keeps the decision, or makes a new one. -/
theorem decided_concat_iff {verdicts : List Verdict} (hsome : verdicts ≠ []) {last : Verdict} :
    Decided (verdicts ++ [last]) ↔
      (Decided verdicts ∧ last.Keeps) ∨ (last.connective = some .or ∧ last.holds = true) := by
  constructor
  · rintro ⟨passed, deciding, later, hverdicts, hdecides⟩
    obtain rfl | ⟨front, next, rfl⟩ := later.eq_nil_or_concat'
    · obtain ⟨rfl, rfl⟩ := List.append_singleton_inj.mp hverdicts
      exact .inr ⟨hdecides.joins.resolve_left hsome, hdecides.holds⟩
    · rw [← List.cons_append, ← List.append_assoc] at hverdicts
      obtain ⟨rfl, rfl⟩ := List.append_singleton_inj.mp hverdicts
      obtain ⟨hfront, hlast⟩ := List.forall_mem_append.mp hdecides.kept
      exact .inl ⟨⟨passed, deciding, front, rfl, hdecides.holds, hdecides.joins, hfront⟩,
        hlast last List.mem_cons_self⟩
  · rintro (⟨⟨passed, deciding, later, rfl, hdecides⟩, hkeeps⟩ | ⟨hor, hholds⟩)
    · have hkept : ∀ next ∈ later ++ [last], next.Keeps :=
        List.forall_mem_append.mpr ⟨hdecides.kept, List.forall_mem_singleton.mpr hkeeps⟩
      exact ⟨passed, deciding, later ++ [last], by simp, hdecides.holds, hdecides.joins, hkept⟩
    · exact ⟨verdicts, last, [], rfl, hholds, .inr hor, by simp⟩

/-! ## The result -/

theorem join_eq_true_iff {before : Bool} {verdict : Verdict} :
    join before verdict = true ↔
      (before = true ∧ verdict.Keeps) ∨
        (verdict.connective = some .or ∧ verdict.holds = true) := by
  rw [join, Keeps]
  split <;> rename_i hconnective <;> simp [hconnective]

theorem joinAll_concat {verdicts : List Verdict} {before : Bool}
    (hbefore : joinAll verdicts = .ok before) (last : Verdict) :
    joinAll (verdicts ++ [last]) = .ok (join before last) := by
  cases verdicts with
  | nil => exact absurd hbefore (by simp [joinAll])
  | cons first others =>
    rw [joinAll, Except.ok.injEq] at hbefore
    rw [List.cons_append, joinAll, List.foldl_append, hbefore]
    rfl

theorem joinAll_eq_error_iff {verdicts : List Verdict} {failure : Failure} :
    joinAll verdicts = .error failure ↔ verdicts = [] ∧ failure = .emptyCondition := by
  cases verdicts with
  | nil => simp [joinAll, eq_comm]
  | cons first others => simp [joinAll]

theorem exists_joinAll {verdicts : List Verdict} (hsome : verdicts ≠ []) :
    ∃ result, joinAll verdicts = .ok result := by
  cases hjoin : joinAll verdicts with
  | error failure => exact absurd (joinAll_eq_error_iff.mp hjoin).1 hsome
  | ok result => exact ⟨result, rfl⟩

theorem joinAll_eq_true_iff {verdicts : List Verdict} (hsome : verdicts ≠ []) :
    joinAll verdicts = .ok true ↔ Decided verdicts := by
  induction verdicts using List.reverseRecOn with
  | nil => exact absurd rfl hsome
  | append_singleton verdicts last ih =>
    obtain rfl | hbefore := eq_or_ne verdicts []
    · rw [List.nil_append, decided_singleton_iff, joinAll, List.foldl_nil, Except.ok.injEq]
    · obtain ⟨before, hjoin⟩ := exists_joinAll hbefore
      rw [joinAll_concat hjoin, Except.ok.injEq, join_eq_true_iff, decided_concat_iff hbefore,
        ← ih hbefore, hjoin, Except.ok.injEq]

/-! ## Verdicts that become true -/

/-- The second verdict is joined alike and holds if the first does. -/
def AtMost (first second : Verdict) : Prop :=
  first.connective = second.connective ∧ (first.holds = true → second.holds = true)

theorem join_mono {before after : Bool} {first second : Verdict}
    (hbefore : before = true → after = true) (hverdict : first.AtMost second)
    (hjoin : join before first = true) : join after second = true := by
  obtain ⟨hconnective, hholds⟩ := hverdict
  rw [join_eq_true_iff, Keeps, hconnective] at hjoin
  rw [join_eq_true_iff, Keeps]
  exact hjoin.imp (And.imp hbefore fun hkeeps hand => hholds (hkeeps hand)) (And.imp_right hholds)

theorem foldl_join_mono {verdicts others : List Verdict}
    (hverdicts : List.Forall₂ AtMost verdicts others) {before after : Bool}
    (hbefore : before = true → after = true) (hjoin : verdicts.foldl join before = true) :
    others.foldl join after = true := by
  induction hverdicts generalizing before after with
  | nil => exact hbefore hjoin
  | cons hverdict _ ih => exact ih (join_mono hbefore hverdict) hjoin

theorem joinAll_mono {verdicts others : List Verdict}
    (hverdicts : List.Forall₂ AtMost verdicts others) (hjoin : joinAll verdicts = .ok true) :
    joinAll others = .ok true := by
  cases hverdicts with
  | nil => exact hjoin
  | cons hfirst hrest =>
    rw [joinAll, Except.ok.injEq] at hjoin ⊢
    exact foldl_join_mono hrest hfirst.2 hjoin

/-! ## All of it -/

/-- Joined verdicts are true exactly when some verdict decides, and false otherwise; the
connective of the first one plays no part, verdicts that become true make no result false,
and the only error is that there is no verdict. -/
theorem joinAll_decided (first : Verdict) (others : List Verdict) :
    (joinAll (first :: others) = .ok true ↔ Decided (first :: others)) ∧
    (joinAll (first :: others) = .ok false ↔ ¬ Decided (first :: others)) ∧
    (∀ connective,
      joinAll ({ first with connective } :: others) = joinAll (first :: others)) ∧
    (∀ more, List.Forall₂ AtMost (first :: others) more →
      joinAll (first :: others) = .ok true → joinAll more = .ok true) ∧
    ∀ verdicts failure,
      joinAll verdicts = .error failure ↔ verdicts = [] ∧ failure = .emptyCondition := by
  have htrue : joinAll (first :: others) = .ok true ↔ Decided (first :: others) :=
    joinAll_eq_true_iff (by simp)
  have hfalse : joinAll (first :: others) = .ok false ↔ ¬ Decided (first :: others) := by
    rw [← htrue, joinAll, Except.ok.injEq, Except.ok.injEq, Bool.not_eq_true]
  exact ⟨htrue, hfalse, fun _ => rfl, fun _ => joinAll_mono, fun _ _ => joinAll_eq_error_iff⟩

/-- An "and" behind an "or" is not read first. -/
example : joinAll [⟨true, none⟩, ⟨true, some .or⟩, ⟨false, some .and⟩] = .ok false := by
  decide

end Aviso.Verdict
