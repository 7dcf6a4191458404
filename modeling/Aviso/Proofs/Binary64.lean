import Mathlib.Order.Monotone.Basic
import Mathlib.Tactic.Ring
import Aviso.Binary64.Basic

/-!
# Rounding to binary64 numbers

`NearestQuotient` says which natural number is nearest to a quotient, and `RoundsTo`
which number of 53 significant bits is nearest to a natural number, both without
computing it.

* `roundQuotient_eq_iff`: rounding a quotient gives the nearest number.
* `units_nearestCode`: the magnitude of the nearest code is a rounded quotient on the
  grid of its exponent.
* `units_nearestCode_iff`: so an integer has the magnitude to which it rounds.
* `units_injective` and `Binary64.signedUnits_eq_iff`: no two codes have one magnitude,
  and no two numbers one value, but for the two zeros.
* `nearestCode_lt_infiniteCode_iff` and `Binary64.isSome_ofDecimal?_iff`: which
  magnitudes are in the range of the format.
-/

namespace Aviso

/-! ## Quotients -/

/-- The number is nearest to the quotient, and the even one of two nearest. -/
structure NearestQuotient (num den nearest : Nat) : Prop where
  not_above : 2 * (nearest * den) ≤ 2 * num + den
  not_below : 2 * num ≤ 2 * (nearest * den) + den
  even_of_tie : 2 * (nearest * den) = 2 * num + den ∨ 2 * num = 2 * (nearest * den) + den →
    nearest % 2 = 0

theorem nearestQuotient_roundQuotient (num : Nat) {den : Nat} (hden : 0 < den) :
    NearestQuotient num den (roundQuotient num den) := by
  have hsplit := Nat.div_add_mod num den
  have hrest := Nat.mod_lt num hden
  have hcomm : num / den * den = den * (num / den) := Nat.mul_comm _ _
  have hnext : (num / den + 1) * den = num / den * den + den := Nat.succ_mul _ _
  simp only [roundQuotient, Bool.or_eq_true, decide_eq_true_eq, Bool.and_eq_true, beq_iff_eq]
  split
  · constructor <;> omega
  · constructor <;> omega

theorem NearestQuotient.unique {num den first second : Nat} (hden : 0 < den)
    (hfirst : NearestQuotient num den first) (hsecond : NearestQuotient num den second) :
    first = second := by
  have hapart {a b : Nat} (ha : NearestQuotient num den a) (hb : NearestQuotient num den b) :
      ¬ a < b := by
    intro hlt
    obtain ⟨gap, rfl⟩ := Nat.exists_eq_add_of_lt hlt
    have hwide : (a + gap + 1) * den = a * den + gap * den + den := by ring
    have htie := ha.even_of_tie
    have htie' := hb.even_of_tie
    have habove := hb.not_above
    have hbelow := ha.not_below
    rw [hwide] at habove htie'
    have hnone : gap * den = 0 := by omega
    have hgap : gap = 0 := by
      rcases Nat.mul_eq_zero.mp hnone with hgap | hzero
      · exact hgap
      · omega
    omega
  have hle := hapart hfirst hsecond
  have hge := hapart hsecond hfirst
  omega

theorem roundQuotient_eq_iff {num den nearest : Nat} (hden : 0 < den) :
    roundQuotient num den = nearest ↔ NearestQuotient num den nearest := by
  constructor
  · rintro rfl
    exact nearestQuotient_roundQuotient num hden
  · exact (nearestQuotient_roundQuotient num hden).unique hden

theorem roundQuotient_mul (whole : Nat) {den : Nat} (hden : 0 < den) :
    roundQuotient (whole * den) den = whole := by
  rw [roundQuotient_eq_iff hden]
  constructor <;> omega

/-- Rounding does not depend on the unit in which a quotient is given. -/
theorem roundQuotient_scale (num : Nat) {den unit : Nat} (hden : 0 < den) (hunit : 0 < unit) :
    roundQuotient (num * unit) (den * unit) = roundQuotient num den := by
  rw [roundQuotient_eq_iff (Nat.mul_pos hden hunit)]
  have hnearest := nearestQuotient_roundQuotient num hden
  generalize roundQuotient num den = nearest at hnearest
  have habove : 2 * (nearest * (den * unit)) = 2 * (nearest * den) * unit := by ring
  have hbelow : 2 * (num * unit) = 2 * num * unit := by ring
  have hsum (n : Nat) : n * unit + den * unit = (n + den) * unit := (Nat.add_mul _ _ _).symm
  constructor
  · rw [habove, hbelow, hsum]
    exact Nat.mul_le_mul_right unit hnearest.not_above
  · rw [habove, hbelow, hsum]
    exact Nat.mul_le_mul_right unit hnearest.not_below
  · rw [habove, hbelow, hsum, hsum, Nat.mul_left_inj (by omega), Nat.mul_left_inj (by omega)]
    exact hnearest.even_of_tie

theorem le_roundQuotient {num den bound : Nat} (hden : 0 < den) (hbound : bound * den ≤ num) :
    bound ≤ roundQuotient num den := by
  have hfloor : bound ≤ num / den := (Nat.le_div_iff_mul_le hden).mpr hbound
  simp only [roundQuotient]
  split <;> omega

theorem roundQuotient_le {num den bound : Nat} (hden : 0 < den) (hbound : num < bound * den) :
    roundQuotient num den ≤ bound := by
  have hfloor : num / den < bound := (Nat.div_lt_iff_lt_mul hden).mpr hbound
  simp only [roundQuotient]
  split <;> omega

/-- A quotient is rounded below an even number unless the half in front of that
number is reached. -/
theorem roundQuotient_lt_iff {num den half : Nat} (hden : 0 < den) :
    roundQuotient num den < 2 * half ↔ 2 * num + den < 2 * (2 * half * den) := by
  have hnearest := nearestQuotient_roundQuotient num hden
  generalize roundQuotient num den = nearest at hnearest
  have habove := hnearest.not_above
  have hbelow := hnearest.not_below
  have htie := hnearest.even_of_tie
  constructor
  · intro hlt
    by_cases hlast : nearest + 1 = 2 * half
    · rw [← hlast, Nat.add_mul]
      omega
    · have hfar : (nearest + 2) * den ≤ 2 * half * den := Nat.mul_le_mul_right den (by omega)
      rw [Nat.add_mul] at hfar
      omega
  · intro hlt
    by_contra hge
    have hfar : 2 * half * den ≤ nearest * den := Nat.mul_le_mul_right den (by omega)
    omega

/-! ## Codes -/

/-- The exponent of the nearest code, in steps above the finest grid. -/
def gridOf (num den : Nat) : Nat :=
  Nat.log2 (num / den) - 52

theorem nearestCode_eq (num den : Nat) :
    nearestCode num den =
      gridOf num den * 2 ^ 52 + roundQuotient num (den * 2 ^ gridOf num den) :=
  rfl

section Grid

variable {num den : Nat}

theorem lt_of_gridOf (hden : 0 < den) : num < 2 ^ 53 * (den * 2 ^ gridOf num den) := by
  have hquotient : num / den < 2 ^ (53 + gridOf num den) := by
    refine Nat.lt_of_lt_of_le Nat.lt_log2_self (Nat.pow_le_pow_right (by decide) ?_)
    rw [gridOf]
    omega
  rw [Nat.div_lt_iff_lt_mul hden, Nat.pow_add] at hquotient
  calc
    num < 2 ^ 53 * 2 ^ gridOf num den * den := hquotient
    _ = 2 ^ 53 * (den * 2 ^ gridOf num den) := by ring

theorem le_of_gridOf (hden : 0 < den) (hgrid : gridOf num den ≠ 0) :
    2 ^ 52 * (den * 2 ^ gridOf num den) ≤ num := by
  have hlog : Nat.log2 (num / den) = 52 + gridOf num den := by
    rw [gridOf] at hgrid ⊢
    omega
  have hsome : num / den ≠ 0 := by
    intro hzero
    rw [hzero] at hlog
    have hnone : Nat.log2 0 = 0 := rfl
    omega
  have hquotient := Nat.log2_self_le hsome
  rw [hlog, Nat.le_div_iff_mul_le hden, Nat.pow_add] at hquotient
  calc
    2 ^ 52 * (den * 2 ^ gridOf num den) = 2 ^ 52 * 2 ^ gridOf num den * den := by ring
    _ ≤ num := hquotient

end Grid

/-- A code is a number of 53 bits on the grid of an exponent.  Rounding up to a power
of two moves to the next exponent, where the number has one bit less. -/
theorem units_grid {grid significand : Nat} (hhigh : significand ≤ 2 ^ 53)
    (hlow : grid ≠ 0 → 2 ^ 52 ≤ significand) :
    units (grid * 2 ^ 52 + significand) = significand * 2 ^ grid := by
  simp only [units, Nat.pow_eq]
  rcases Nat.lt_or_ge significand (2 ^ 52) with hsmall | hlarge
  · have hgrid : grid = 0 := by
      by_contra hne
      exact absurd (hlow hne) (by omega)
    subst hgrid
    have hexponent : (0 * 2 ^ 52 + significand) / 2 ^ 52 = 0 := by omega
    rw [if_pos hexponent]
    omega
  · rcases Nat.lt_or_ge significand (2 ^ 53) with hwithin | hpower
    · have hexponent : (grid * 2 ^ 52 + significand) / 2 ^ 52 = grid + 1 := by omega
      have hfraction : (grid * 2 ^ 52 + significand) % 2 ^ 52 = significand - 2 ^ 52 := by omega
      rw [hexponent, hfraction, if_neg (by omega), Nat.add_sub_cancel' hlarge,
        Nat.add_sub_cancel]
    · have hexponent : (grid * 2 ^ 52 + significand) / 2 ^ 52 = grid + 2 := by omega
      have hfraction : (grid * 2 ^ 52 + significand) % 2 ^ 52 = 0 := by omega
      have hsignificand : significand = 2 ^ 52 * 2 := by omega
      rw [hexponent, hfraction, if_neg (by omega), hsignificand, Nat.add_zero,
        Nat.add_sub_assoc (by decide), Nat.pow_succ]
      ring

/-- Codes order the magnitudes. -/
theorem units_lt_succ (code : Nat) : units code < units (code + 1) := by
  obtain ⟨grid, significand, hcode, hhigh, hlow⟩ :
      ∃ grid significand, code = grid * 2 ^ 52 + significand ∧ significand < 2 ^ 53 ∧
        (grid ≠ 0 → 2 ^ 52 ≤ significand) := by
    refine ⟨code / 2 ^ 52 - 1, code - (code / 2 ^ 52 - 1) * 2 ^ 52, ?_, ?_, ?_⟩ <;> omega
  rw [hcode, Nat.add_assoc, units_grid (by omega) hlow, units_grid hhigh (by omega)]
  exact Nat.mul_lt_mul_of_pos_right (Nat.lt_succ_self significand) (Nat.two_pow_pos grid)

theorem units_injective : Function.Injective units :=
  (strictMono_nat_of_lt_succ units_lt_succ).injective

theorem units_eq_zero_iff {code : Nat} : units code = 0 ↔ code = 0 := by
  have hzero : units 0 = 0 := by decide
  constructor
  · intro hcode
    exact units_injective (hcode.trans hzero.symm)
  · rintro rfl
    exact hzero

/-- Two numbers have one value if they are one number, or both are zero. -/
theorem Binary64.signedUnits_eq_iff {left right : Binary64} :
    left.signedUnits = right.signedUnits ↔ left = right ∨ (left.code = 0 ∧ right.code = 0) := by
  obtain ⟨negative, code, _⟩ := left
  obtain ⟨negative', code', _⟩ := right
  have hzero := @units_eq_zero_iff code
  have hzero' := @units_eq_zero_iff code'
  have hsame : units code = units code' ↔ code = code' := units_injective.eq_iff
  cases negative <;> cases negative' <;> simp [signedUnits] <;> omega

/-- The magnitude of the nearest code is a rounded quotient on its grid. -/
theorem units_nearestCode (num : Nat) {den : Nat} (hden : 0 < den) :
    units (nearestCode num den) =
      roundQuotient num (den * 2 ^ gridOf num den) * 2 ^ gridOf num den := by
  have hpositive : 0 < den * 2 ^ gridOf num den := Nat.mul_pos hden (Nat.two_pow_pos _)
  rw [nearestCode_eq]
  apply units_grid
  · exact roundQuotient_le hpositive (lt_of_gridOf hden)
  · intro hgrid
    exact le_roundQuotient hpositive (le_of_gridOf hden hgrid)

/-! ## Integers -/

/-- `nearest` is the number of 53 significant bits that is nearest to the natural
number: a multiple of a power of two, which is one below `2 ^ 53` and doubles with
each further bit.  Of two nearest multiples it is the even one. -/
def RoundsTo (number nearest : Nat) : Prop :=
  ∃ bits significand, number < Nat.pow 2 (53 + bits) ∧
    (bits ≠ 0 → Nat.pow 2 (52 + bits) ≤ number) ∧
    nearest = significand * Nat.pow 2 bits ∧ NearestQuotient number (Nat.pow 2 bits) significand

/-- How many bits of a natural number do not fit into 53. -/
def excessBits (number : Nat) : Nat :=
  Nat.log2 number - 52

theorem excessBits_spec (number : Nat) :
    number < 2 ^ (53 + excessBits number) ∧
      (excessBits number ≠ 0 → 2 ^ (52 + excessBits number) ≤ number) := by
  constructor
  · refine Nat.lt_of_lt_of_le Nat.lt_log2_self (Nat.pow_le_pow_right (by decide) ?_)
    rw [excessBits]
    omega
  · intro hbits
    have hsome : number ≠ 0 := by
      rintro rfl
      exact hbits rfl
    have hlog : Nat.log2 number = 52 + excessBits number := by
      rw [excessBits] at hbits ⊢
      omega
    rw [← hlog]
    exact Nat.log2_self_le hsome

theorem excessBits_unique {number bits : Nat} (hhigh : number < 2 ^ (53 + bits))
    (hlow : bits ≠ 0 → 2 ^ (52 + bits) ≤ number) : bits = excessBits number := by
  obtain ⟨hhigh', hlow'⟩ := excessBits_spec number
  have hapart {a b : Nat} (ha : number < 2 ^ (53 + a)) (hb : b ≠ 0 → 2 ^ (52 + b) ≤ number) :
      b ≤ a := by
    by_contra hlt
    have hpow : 2 ^ (53 + a) ≤ 2 ^ (52 + b) := Nat.pow_le_pow_right (by decide) (by omega)
    have := hb (by omega)
    omega
  exact Nat.le_antisymm (hapart hhigh' hlow) (hapart hhigh hlow')

theorem roundsTo_iff {number nearest : Nat} :
    RoundsTo number nearest ↔
      nearest = roundQuotient number (2 ^ excessBits number) * 2 ^ excessBits number := by
  constructor
  · rintro ⟨bits, significand, hhigh, hlow, rfl, hnearest⟩
    rw [← excessBits_unique hhigh hlow,
      (roundQuotient_eq_iff (Nat.two_pow_pos bits)).mpr hnearest]
    rfl
  · rintro rfl
    obtain ⟨hhigh, hlow⟩ := excessBits_spec number
    exact ⟨_, _, hhigh, hlow, rfl, nearestQuotient_roundQuotient number (Nat.two_pow_pos _)⟩

/-- A number below `2 ^ 53` rounds to itself. -/
theorem roundsTo_self_of_lt {number nearest : Nat} (hsmall : number < 2 ^ 53) :
    RoundsTo number nearest ↔ nearest = number := by
  have hbits : 0 = excessBits number := excessBits_unique hsmall (by simp)
  have hexact := roundQuotient_mul number Nat.one_pos
  rw [Nat.mul_one] at hexact
  rw [roundsTo_iff, ← hbits, Nat.pow_zero, hexact, Nat.mul_one]

/-- A number from `2 ^ 53` up does not round to one below. -/
theorem le_of_roundsTo {number nearest : Nat} (hrounds : RoundsTo number nearest)
    (hlarge : 2 ^ 53 ≤ number) : 2 ^ 53 ≤ nearest := by
  obtain ⟨bits, significand, hhigh, hlow, rfl, hnearest⟩ := hrounds
  simp only [Nat.pow_eq] at hhigh hlow hnearest ⊢
  have hsome : bits ≠ 0 := by
    rintro rfl
    omega
  have hfloor : 2 ^ 52 * 2 ^ bits ≤ number := by
    rw [← Nat.pow_add]
    exact hlow hsome
  have hsignificand : 2 ^ 52 ≤ significand := by
    rw [← (roundQuotient_eq_iff (Nat.two_pow_pos bits)).mpr hnearest]
    exact le_roundQuotient (Nat.two_pow_pos bits) hfloor
  calc
    2 ^ 53 = 2 ^ 52 * 2 ^ 1 := by decide
    _ ≤ significand * 2 ^ bits :=
      Nat.mul_le_mul hsignificand (Nat.pow_le_pow_right (by decide) (by omega))

theorem log2_scaled {number : Nat} (hsome : number ≠ 0) (scale : Nat) :
    Nat.log2 (number * 2 ^ scale) = Nat.log2 number + scale := by
  have hscaled : number * 2 ^ scale ≠ 0 := Nat.mul_ne_zero hsome (Nat.two_pow_pos scale).ne'
  rw [Nat.log2_eq_iff hscaled, Nat.pow_add, Nat.add_right_comm, Nat.pow_add]
  exact ⟨Nat.mul_le_mul_right _ (Nat.log2_self_le hsome),
    Nat.mul_lt_mul_of_pos_right Nat.lt_log2_self (Nat.two_pow_pos scale)⟩

/-- On a scale that has room for 53 bits below one, an integer of 53 bits or fewer is
exact, and a longer one is rounded as on no scale. -/
theorem units_nearestCode_scaled (number : Nat) {scale : Nat} (hscale : 52 ≤ scale) :
    units (nearestCode (number * 2 ^ scale) 1) =
      roundQuotient number (2 ^ excessBits number) * 2 ^ excessBits number * 2 ^ scale := by
  rw [units_nearestCode _ Nat.one_pos, Nat.one_mul]
  by_cases hzero : number = 0
  · have hnone (den : Nat) : roundQuotient 0 (2 ^ den) = 0 := by
      have hexact := roundQuotient_mul 0 (Nat.two_pow_pos den)
      rw [Nat.zero_mul] at hexact
      exact hexact
    rw [hzero, Nat.zero_mul, hnone, hnone, Nat.zero_mul, Nat.zero_mul, Nat.zero_mul]
  · have hgrid : gridOf (number * 2 ^ scale) 1 = Nat.log2 number + scale - 52 := by
      rw [gridOf, Nat.div_one, log2_scaled hzero]
    rw [hgrid]
    rcases Nat.lt_or_ge (Nat.log2 number) 52 with hshort | hlong
    · have hbits : excessBits number = 0 := Nat.sub_eq_zero_of_le (Nat.le_of_lt hshort)
      have hwhole := roundQuotient_mul number Nat.one_pos
      have hexact := roundQuotient_mul (number * 2 ^ (52 - Nat.log2 number))
        (Nat.two_pow_pos (Nat.log2 number + scale - 52))
      have hsplit : number * 2 ^ (52 - Nat.log2 number) * 2 ^ (Nat.log2 number + scale - 52) =
          number * 2 ^ scale := by
        rw [Nat.mul_assoc, ← Nat.pow_add]
        congr 2
        omega
      rw [Nat.mul_one] at hwhole
      rw [hsplit] at hexact
      rw [hexact, hsplit, hbits, Nat.pow_zero, hwhole, Nat.mul_one]
    · have hbits : Nat.log2 number + scale - 52 = excessBits number + scale := by
        rw [excessBits]
        omega
      rw [hbits, Nat.pow_add, roundQuotient_scale _ (Nat.two_pow_pos _) (Nat.two_pow_pos _),
        Nat.mul_assoc]

/-- The magnitude of the code nearest to an integer is the number to which the integer
rounds. -/
theorem units_nearestCode_iff {number nearest scale : Nat} (hscale : 52 ≤ scale) :
    units (nearestCode (number * 2 ^ scale) 1) = nearest * 2 ^ scale ↔ RoundsTo number nearest := by
  rw [units_nearestCode_scaled number hscale, roundsTo_iff,
    Nat.mul_left_inj (Nat.two_pow_pos scale).ne', eq_comm]

/-! ## The range of the format -/

/-- The half in front of the first power of two that is out of range, from which on
magnitudes round up to it. -/
def rangeEnd : Nat :=
  (Nat.pow 2 54 - 1) * Nat.pow 2 970

/-- A code stays below the one at the end of a grid unless the half in front of that one
is reached. -/
theorem nearestCode_lt_iff (num : Nat) {den : Nat} (hden : 0 < den) (top : Nat) :
    nearestCode num den < (top + 3) * 2 ^ 52 ↔ num < (2 ^ 54 - 1) * 2 ^ top * den := by
  have hpositive : 0 < den * 2 ^ gridOf num den := Nat.mul_pos hden (Nat.two_pow_pos _)
  have hhigh := @lt_of_gridOf num _ hden
  have hcode := roundQuotient_le hpositive hhigh
  have hend : (2 ^ 54 - 1) * 2 ^ top * den = (2 ^ 54 - 1) * (den * 2 ^ top) := by ring
  rw [nearestCode_eq, hend]
  rcases Nat.lt_trichotomy (gridOf num den) (top + 1) with hbelow | hlast | habove
  · have hgrid : den * 2 ^ gridOf num den ≤ den * 2 ^ top :=
      Nat.mul_le_mul_left den (Nat.pow_le_pow_right (by decide) (by omega))
    omega
  · have hgrid : den * 2 ^ gridOf num den = 2 * (den * 2 ^ top) := by
      rw [hlast, Nat.pow_succ]
      ring
    have hround := @roundQuotient_lt_iff num _ (2 ^ 52) hpositive
    rw [hgrid] at hround ⊢
    omega
  · have hgrid : den * 2 ^ (top + 2) ≤ den * 2 ^ gridOf num den :=
      Nat.mul_le_mul_left den (Nat.pow_le_pow_right (by decide) habove)
    have hlow := @le_of_gridOf num _ hden (by omega)
    have hround := le_roundQuotient hpositive hlow
    have hstep : den * 2 ^ (top + 2) = 4 * (den * 2 ^ top) := by
      rw [Nat.pow_add]
      ring
    omega

theorem rangeEnd_le : rangeEnd ≤ Nat.pow 10 310 := by
  decide +kernel

/-- The powers of two in the definitions of the format.  The kernel computes them, and later
proofs know them by their exponents alone. -/
theorem exists_exponents :
    ∃ scale top, unitsPerOne = 2 ^ scale ∧ rangeEnd = (2 ^ 54 - 1) * 2 ^ top ∧
      infiniteCode = (top + scale + 3) * 2 ^ 52 ∧ 52 ≤ scale :=
  ⟨1074, 970, by decide +kernel, by decide +kernel, by decide, by decide⟩

theorem nearestCode_lt_infiniteCode_iff (num : Nat) {den : Nat} (hden : 0 < den) :
    nearestCode (num * unitsPerOne) den < infiniteCode ↔ num < rangeEnd * den := by
  obtain ⟨scale, top, hone, hrange, hend, _⟩ := exists_exponents
  have hsplit : (2 ^ 54 - 1) * 2 ^ (top + scale) * den =
      (2 ^ 54 - 1) * 2 ^ top * den * 2 ^ scale := by
    rw [Nat.pow_add]
    ring
  rw [hone, hend, hrange, nearestCode_lt_iff _ hden, hsplit,
    Nat.mul_lt_mul_right (Nat.two_pow_pos scale)]

theorem unitsPerOne_ne_zero : unitsPerOne ≠ 0 := by
  obtain ⟨scale, _, hone, _⟩ := exists_exponents
  rw [hone]
  exact (Nat.two_pow_pos scale).ne'

/-- In units, an integer has the magnitude to which it rounds. -/
theorem units_nearestCode_integer {number nearest : Nat} (hrounds : RoundsTo number nearest) :
    units (nearestCode (number * unitsPerOne) 1) = nearest * unitsPerOne := by
  obtain ⟨scale, _, hone, _, _, hscale⟩ := exists_exponents
  rw [hone]
  exact (units_nearestCode_iff hscale).mpr hrounds

theorem digitCount_le_iff {number count : Nat} (hcount : 0 < count) :
    digitCount number ≤ count ↔ number < 10 ^ count :=
  Nat.length_toDigits_le_iff (by decide) hcount

namespace Binary64

theorem isSome_ofCode? {negative : Bool} {code : Nat} :
    (ofCode? negative code).isSome = true ↔ code < infiniteCode := by
  unfold ofCode?
  split <;> simp_all

/-- A decimal with places behind the point is near to a finite number unless its
digits reach the end of the range. -/
theorem isSome_ofDecimal?_iff {negative : Bool} {digits places : Nat} :
    (ofDecimal? negative ⟨digits, -(places : Int)⟩).isSome = true ↔
      digits < rangeEnd * Nat.pow 10 places := by
  have hrange : 0 < rangeEnd := by decide +kernel
  have hpositive : 0 < 10 ^ places := Nat.pow_pos (by decide)
  have hplaces : 10 ^ places ≤ rangeEnd * 10 ^ places := Nat.le_mul_of_pos_left _ hrange
  have hzero : 0 < infiniteCode := by decide
  rw [Nat.pow_eq]
  simp only [ofDecimal?, Bool.or_eq_true, decide_eq_true_eq]
  split
  · rename_i hsmall
    rw [isSome_ofCode?]
    refine iff_of_true hzero ?_
    rcases hsmall with rfl | hsmall
    · omega
    · have hdigits := (@digitCount_le_iff digits places (by omega)).mp
        (by omega)
      omega
  · rename_i hsome
    split
    · rename_i hlarge
      have hreached {bound : Nat} (hbound : rangeEnd ≤ Nat.pow 10 bound) (hsome : 0 < bound)
          (hcount : bound + places < digitCount digits) : rangeEnd * 10 ^ places ≤ digits := by
        have hdigits := (@digitCount_le_iff digits _ (by omega)).not.mp hcount.not_ge
        rw [Nat.pow_add, Nat.not_lt] at hdigits
        exact Nat.le_trans (Nat.mul_le_mul_right _ hbound) hdigits
      simp only [Option.isSome_none, Bool.false_eq_true, false_iff, Nat.not_lt]
      exact hreached rangeEnd_le (by decide) (by omega)
    · split
      · have hnone : places = 0 := by omega
        subst hnone
        have hlt := nearestCode_lt_infiniteCode_iff digits Nat.one_pos
        simpa [isSome_ofCode?] using hlt
      · have hlt := nearestCode_lt_infiniteCode_iff digits hpositive
        simpa [isSome_ofCode?] using hlt

end Binary64

end Aviso
