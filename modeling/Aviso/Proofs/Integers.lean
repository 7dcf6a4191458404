import Aviso.Proofs.Condition.Layout
import Aviso.Proofs.Condition.Past
import Aviso.Proofs.Path

/-!
# Comparing integers

Two numbers are equal if the binary64 numbers nearest to them are, and integers are no
exception: from `2 ^ 53` on an integer can share its nearest number with others.

* `Value.equal_integers_iff`: two integers are equal if they round alike.
* `RoundAlike.iff_eq`: integers below `2 ^ 53` round like no other.
* `judge_integers`: so does a condition that compares an expression with an
  integer written out.
-/

namespace Aviso

open Text Json

/-! ## Integers that round alike -/

/-- The integers have the same sign, and the number of 53 significant bits that is
nearest to the one is nearest to the other. -/
def RoundAlike (left right : Int) : Prop :=
  left.sign = right.sign ∧ ∃ nearest, RoundsTo left.natAbs nearest ∧ RoundsTo right.natAbs nearest

theorem exists_roundsTo (number : Nat) : ∃ nearest, RoundsTo number nearest :=
  ⟨_, roundsTo_iff.mpr rfl⟩

theorem RoundsTo.unique {number first second : Nat} (hfirst : RoundsTo number first)
    (hsecond : RoundsTo number second) : first = second := by
  rw [roundsTo_iff] at hfirst hsecond
  rw [hfirst, hsecond]

/-- Only zero rounds to zero. -/
theorem RoundsTo.eq_zero_iff {number nearest : Nat} (hrounds : RoundsTo number nearest) :
    nearest = 0 ↔ number = 0 := by
  rcases Nat.lt_or_ge number (2 ^ 53) with hsmall | hlarge
  · rw [(roundsTo_self_of_lt hsmall).mp hrounds]
  · have hnearest := le_of_roundsTo hrounds hlarge
    omega

/-- A number below `2 ^ 53` shares its nearest number with no other. -/
theorem RoundsTo.eq_of_lt {left right nearest : Nat} (hsmall : left < 2 ^ 53)
    (hleft : RoundsTo left nearest) (hright : RoundsTo right nearest) : left = right := by
  obtain rfl := (roundsTo_self_of_lt hsmall).mp hleft
  rcases Nat.lt_or_ge right (2 ^ 53) with hlt | hge
  · exact (roundsTo_self_of_lt hlt).mp hright
  · have := le_of_roundsTo hright hge
    omega

namespace RoundAlike

variable {left right : Int}

theorem symm (halike : RoundAlike left right) : RoundAlike right left := by
  obtain ⟨hsign, nearest, hleft, hright⟩ := halike
  exact ⟨hsign.symm, nearest, hright, hleft⟩

theorem refl (number : Int) : RoundAlike number number := by
  obtain ⟨nearest, hnearest⟩ := exists_roundsTo number.natAbs
  exact ⟨rfl, nearest, hnearest, hnearest⟩

theorem eq_of_lt (hsmall : left.natAbs < 2 ^ 53) (halike : RoundAlike left right) :
    left = right := by
  obtain ⟨hsign, nearest, hleft, hright⟩ := halike
  have habs := RoundsTo.eq_of_lt hsmall hleft hright
  rw [← Int.sign_mul_natAbs left, ← Int.sign_mul_natAbs right, hsign, habs]

/-- An integer below `2 ^ 53` rounds like no other. -/
theorem iff_eq (hsmall : left.natAbs < 2 ^ 53 ∨ right.natAbs < 2 ^ 53) :
    RoundAlike left right ↔ left = right := by
  constructor
  · intro halike
    rcases hsmall with hleft | hright
    · exact eq_of_lt hleft halike
    · exact (eq_of_lt hright halike.symm).symm
  · rintro rfl
    exact refl left

end RoundAlike

/-! ## Equality of integers -/

section Signs

variable {left right : Int} {first second : Nat}

/-- A number with a sign has one sign and one magnitude. -/
theorem sign_mul_eq_iff (hfirst : first = 0 ↔ left = 0) (hsecond : second = 0 ↔ right = 0) :
    left.sign * first = right.sign * second ↔ left.sign = right.sign ∧ first = second := by
  have hsign (value : Int) : value.sign = -1 ∧ value < 0 ∨ value.sign = 0 ∧ value = 0 ∨
      value.sign = 1 ∧ 0 < value := by
    rcases Int.lt_trichotomy value 0 with hnegative | rfl | hpositive
    · exact .inl ⟨Int.sign_eq_neg_one_of_neg hnegative, hnegative⟩
    · exact .inr (.inl ⟨rfl, rfl⟩)
    · exact .inr (.inr ⟨Int.sign_eq_one_of_pos hpositive, hpositive⟩)
  rcases hsign left with ⟨hleft, _⟩ | ⟨hleft, _⟩ | ⟨hleft, _⟩ <;>
    rcases hsign right with ⟨hright, _⟩ | ⟨hright, _⟩ | ⟨hright, _⟩ <;>
    rw [hleft, hright] <;> omega

theorem roundAlike_iff (hfirst : RoundsTo left.natAbs first)
    (hsecond : RoundsTo right.natAbs second) :
    RoundAlike left right ↔ left.sign = right.sign ∧ first = second := by
  constructor
  · rintro ⟨hsign, nearest, hleft, hright⟩
    exact ⟨hsign, (hfirst.unique hleft).trans (hright.unique hsecond)⟩
  · rintro ⟨hsign, rfl⟩
    exact ⟨hsign, first, hfirst, hsecond⟩

/-- Integers round alike if their nearest numbers are equal in some unit. -/
theorem roundAlike_iff_of_unit {unit : Nat} (hunit : unit ≠ 0)
    (hfirst : RoundsTo left.natAbs first) (hsecond : RoundsTo right.natAbs second) :
    left.sign * (first * unit : Nat) = right.sign * (second * unit : Nat) ↔
      RoundAlike left right := by
  have hzero {number : Int} {nearest : Nat} (hrounds : RoundsTo number.natAbs nearest) :
      nearest * unit = 0 ↔ number = 0 := by
    rw [Nat.mul_eq_zero, or_iff_left hunit, hrounds.eq_zero_iff, Int.natAbs_eq_zero]
  rw [sign_mul_eq_iff (hzero hfirst) (hzero hsecond), Nat.mul_left_inj hunit,
    roundAlike_iff hfirst hsecond]

theorem signed_eq_sign_mul {value : Int} {magnitude : Nat} (hzero : value = 0 → magnitude = 0) :
    (if value < 0 then -(magnitude : Int) else magnitude) = value.sign * magnitude := by
  rcases Int.lt_trichotomy value 0 with hnegative | hnone | hpositive
  · rw [if_pos hnegative, Int.sign_eq_neg_one_of_neg hnegative, Int.neg_one_mul]
  · rw [hzero hnone, hnone]
    rfl
  · rw [if_neg (by omega), Int.sign_eq_one_of_pos hpositive, Int.one_mul]

end Signs

/-- The value of an integer is that of the number to which it rounds. -/
theorem signedUnits_integer {value : Int} {nearest : Nat}
    (hrounds : RoundsTo value.natAbs nearest) :
    (Number.integer value).signedUnits = value.sign * (nearest * unitsPerOne : Nat) := by
  rw [Number.signedUnits, units_nearestCode_integer hrounds, signed_eq_sign_mul]
  intro hzero
  have hnone : nearest = 0 := by
    rw [hrounds.eq_zero_iff, hzero]
    rfl
  rw [hnone, Nat.zero_mul]

/-- Two integers are equal as operands exactly when they round alike. -/
theorem Value.equal_integers_iff {left right : Int} :
    Value.equal (.number (.integer left)) (.number (.integer right)) = true ↔
      RoundAlike left right := by
  obtain ⟨first, hfirst⟩ := exists_roundsTo left.natAbs
  obtain ⟨second, hsecond⟩ := exists_roundsTo right.natAbs
  rw [Value.equal, beq_iff_eq, signedUnits_integer hfirst, signedUnits_integer hsecond]
  exact roundAlike_iff_of_unit unitsPerOne_ne_zero hfirst hsecond

/-! ## Conditions -/

/-- Digits behind a sign can stand in a condition without braces. -/
theorem bare_of_digits {sign digits : List Char} (hsign : sign = [] ∨ sign = ['-'])
    (hsome : digits ≠ []) (hdigits : ∀ c ∈ digits, c.isDigit = true) :
    Bare (String.ofList (sign ++ digits)) := by
  have hspelt := @Token.Spelt.number sign digits [] hsign
    ⟨hsome, fun c hmem => Token.isDigit_of_ascii (hdigits c hmem)⟩ (.inl rfl)
  rw [List.append_nil] at hspelt
  constructor
  · rw [String.toList_ofList]
    exact hspelt
  · rw [String.toList_ofList]
    intro hopening
    have hmem : '{' ∈ sign ++ digits := hopening.subset (by decide)
    rcases List.mem_append.mp hmem with hmem | hmem
    · rcases hsign with rfl | rfl <;> exact absurd hmem (by decide)
    · exact absurd (hdigits _ hmem) (by decide)

theorem bare_of_writesInteger {written : List Char} {value : Int}
    (hwrites : Literal.WritesInteger written value) : Bare (String.ofList written) := by
  cases hwrites with
  | unsigned hsome hdigits => exact @bare_of_digits [] _ (.inl rfl) hsome hdigits
  | negated hsome hdigits => exact bare_of_digits (.inr rfl) hsome hdigits

namespace Condition

/-- Two integers are equal exactly when they round alike, so an integer below `2 ^ 53`
is equal to no other; and a condition that compares an integer of a context with one
that is written out, by the one comparator or the other, holds or does not hold
accordingly. -/
theorem judge_integers (left right : Int) :
    (Value.equal (.number (.integer left)) (.number (.integer right)) = true ↔
      RoundAlike left right) ∧
    (left.natAbs < Nat.pow 2 53 ∨ right.natAbs < Nat.pow 2 53 →
      (RoundAlike left right ↔ left = right)) ∧
    ∀ (scope : Scope) (expression : String) (written : List Char), Enclosable expression →
      Expression.value expression.toList scope.context = .ok (.number (.integer left)) →
      Literal.WritesInteger written right →
      -(Nat.pow 2 63 : Int) ≤ right ∧ right < (Nat.pow 2 63 : Int) →
      ∃ equal unequal verdict,
        parse (String.ofList (Comparison.plainText expression "ES IGUAL QUE" written)) = .ok equal ∧
        parse (String.ofList (Comparison.plainText expression "ES DIFERENTE DE" written)) =
          .ok unequal ∧
        judge equal scope = .ok verdict ∧ judge unequal scope = .ok (!verdict) ∧
        (verdict = true ↔ RoundAlike left right) := by
  refine ⟨Value.equal_integers_iff, RoundAlike.iff_eq, ?_⟩
  intro scope expression written hexpression hvalue hwrites hrange
  have hbare := bare_of_writesInteger hwrites
  have hspelt := hbare.spelt
  rw [String.toList_ofList] at hspelt
  have htrimmed := Token.trimmed_literal hspelt
  have hwritten : Expression.value written scope.context = .ok (.number (.integer right)) :=
    Expression.value_of_literal hspelt.ne_nil htrimmed (literal?_integer hwrites hrange htrimmed)
      scope.context
  have hleft : operandValue expression scope.context = .ok (.number (.integer left)) := by
    rw [operandValue, hvalue]
    rfl
  have hright : operandValue (String.ofList written) scope.context =
      .ok (.number (.integer right)) := by
    rw [operandValue, String.toList_ofList, hwritten]
    rfl
  have hparse {spelling : String} {comparator : Comparator}
      (hspelling : spelling ∈ comparator.keywords) :
      parse (String.ofList (Comparison.plainText expression spelling written)) =
        .ok [⟨expression, comparator, String.ofList written, none⟩] := by
    have hparse := parse_plainText hexpression hspelling hbare
    rw [String.toList_ofList] at hparse
    exact hparse
  have hjudge {comparator : Comparator} (hasks : comparator.asksPast = false) :
      judge [⟨expression, comparator, String.ofList written, none⟩] scope =
        comparator.compare scope.context (.number (.integer left)) (.number (.integer right)) :=
    @judge_of_values ⟨expression, comparator, String.ofList written, none⟩ _ _ _ hasks hleft hright
  refine ⟨_, _, Value.equal (.number (.integer left)) (.number (.integer right)),
    @hparse _ .equal (by decide), @hparse _ .notEqual (by decide), ?_, ?_,
    Value.equal_integers_iff⟩
  · rw [@hjudge .equal rfl, Comparator.compare]
  · rw [@hjudge .notEqual rfl, Comparator.compare]

/-- A ticket passes for the next one, whose number rounds to its own. -/
theorem judge_integers_next :
    let ticket : Value := .object [("id", .number (.integer 9007199254740992))]
    let scope : Scope :=
      { context := { members := [("ticket", ticket)] }, event := none, entity := none }
    RoundAlike 9007199254740992 9007199254740993 ∧
      ∃ equal unequal,
        parse "{{ticket.id}} ES IGUAL QUE 9007199254740993" = .ok equal ∧
        parse "{{ticket.id}} ES DIFERENTE DE 9007199254740993" = .ok unequal ∧
        judge equal scope = .ok true ∧ judge unequal scope = .ok false := by
  intro ticket scope
  have hwrites : Literal.WritesInteger "9007199254740993".toList 9007199254740993 :=
    .unsigned (by decide) (List.all_eq_true.mp (by decide))
  have hvalue : Expression.value "ticket.id".toList scope.context =
      .ok (.number (.integer 9007199254740992)) := rfl
  obtain ⟨hequal, _, hcondition⟩ := judge_integers 9007199254740992 9007199254740993
  have halike := hequal.mp (by decide +kernel)
  obtain ⟨equal, unequal, verdict, hparse, hparse', hjudge, hjudge', hverdict⟩ :=
    hcondition scope "ticket.id" _ (by decide) hvalue hwrites (by decide)
  obtain rfl := hverdict.mpr halike
  exact ⟨halike, equal, unequal, hparse, hparse', hjudge, hjudge'⟩

/-- Two integers above `2 ^ 53` are equal, though they differ. -/
theorem judge_integers_unequal :
    Value.equal (.number (.integer 9007199254740993)) (.number (.integer 9007199254740992)) = true ∧
      (9007199254740993 : Int) ≠ 9007199254740992 := by
  decide +kernel

end Condition

end Aviso
