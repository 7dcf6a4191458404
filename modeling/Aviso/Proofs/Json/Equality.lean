import Mathlib.Data.List.Forall2
import Aviso.Json.Equality
import Aviso.Proofs.Integers

/-!
# Equality of JSON values is an equivalence

Numbers are compared in one way at the top of a value and in another way inside it.
`Agree` says what both equalities have in common, and takes the comparison of the numbers
and that of the items and members as arguments; `Alike` is the comparison of the items and
members, at every depth.

* `Number.near_iff` and `Number.same_iff_alike`: the two comparisons of numbers.
* `Agree.refl`, `Agree.symm` and `Agree.trans`: what is true of the numbers and of the
  values one level below is true of the values.
* `Alike.refl`, `Alike.symm` and `Alike.trans` follow by induction on the depth of a value.
* `Value.same_iff_alike` and `Value.equal_iff_agree`: values are compared as the relations
  say.
* `Value.equal_refl`, `Value.equal_symm` and `Value.equal_trans`, which
  `Value.equal_equivalence` puts together.
-/

namespace Aviso.Json

/-! ## Numbers -/

/-- The binary64 number nearest to the number has the value, in units of `2 ^ -1074`. -/
inductive Number.Near : Number → Int → Prop where
  /-- An integer is rounded to 53 significant bits. -/
  | integer {value : Int} {nearest : Nat} (hrounds : RoundsTo value.natAbs nearest) :
      Near (.integer value) (value.sign * (nearest * unitsPerOne : Nat))
  | binary64 (value : Binary64) : Near (.binary64 value) value.signedUnits

/-- One binary64 number is nearest to both numbers. -/
def Number.NearAlike (left right : Number) : Prop :=
  ∃ value, left.Near value ∧ right.Near value

/-- The numbers are of one kind and have one value. -/
inductive Number.Alike : Number → Number → Prop where
  | integer (value : Int) : Alike (.integer value) (.integer value)
  /-- The two zeros have one value. -/
  | binary64 {left right : Binary64}
      (hvalue : left = right ∨ (left.code = 0 ∧ right.code = 0)) :
      Alike (.binary64 left) (.binary64 right)

namespace Number

theorem near_iff {number : Number} {value : Int} :
    number.Near value ↔ number.signedUnits = value := by
  constructor
  · intro hnear
    cases hnear with
    | integer hrounds => exact signedUnits_integer hrounds
    | binary64 value => rfl
  · rintro rfl
    cases number with
    | integer value =>
      obtain ⟨nearest, hrounds⟩ := exists_roundsTo value.natAbs
      rw [signedUnits_integer hrounds]
      exact .integer hrounds
    | binary64 value => exact .binary64 value

theorem nearAlike_iff {left right : Number} :
    left.NearAlike right ↔ left.signedUnits = right.signedUnits := by
  simp only [NearAlike, near_iff, exists_eq_left']
  exact eq_comm

theorem equivalence_nearAlike : Equivalence NearAlike := by
  have hvalue : NearAlike = fun left right => left.signedUnits = right.signedUnits :=
    funext₂ fun _ _ => propext nearAlike_iff
  rw [hvalue]
  exact eq_equivalence.comap signedUnits

theorem same_iff_alike {left right : Number} : left.same right = true ↔ left.Alike right := by
  constructor
  · intro hsame
    cases left with
    | integer left =>
      cases right with
      | integer right =>
        obtain rfl := beq_iff_eq.mp hsame
        exact .integer left
      | binary64 right => exact absurd hsame (by simp [same])
    | binary64 left =>
      cases right with
      | integer right => exact absurd hsame (by simp [same])
      | binary64 right => exact .binary64 (Binary64.signedUnits_eq_iff.mp (beq_iff_eq.mp hsame))
  · intro halike
    cases halike with
    | integer value => exact beq_self_eq_true value
    | binary64 hvalue => exact beq_iff_eq.mpr (Binary64.signedUnits_eq_iff.mpr hvalue)

theorem equivalence_alike : Equivalence Alike where
  refl number := by
    cases number with
    | integer value => exact .integer value
    | binary64 value => exact .binary64 (.inl rfl)
  symm halike := by
    cases halike with
    | integer value => exact .integer value
    | binary64 hvalue => exact .binary64 (hvalue.imp Eq.symm And.symm)
  trans hfirst hsecond := by
    cases hfirst with
    | integer value => exact hsecond
    | binary64 hfirst =>
      cases hsecond with
      | binary64 hsecond =>
        rw [← Binary64.signedUnits_eq_iff] at hfirst hsecond
        exact .binary64 (Binary64.signedUnits_eq_iff.mp (hfirst.trans hsecond))

end Number

/-! ## Lists of which one side has the law -/

section

variable {α : Type} {r s : α → α → Prop}

theorem forall₂_imp_of_mem {lefts rights : List α} (hrelated : List.Forall₂ r lefts rights)
    (himp : ∀ left ∈ lefts, ∀ right, r left right → s left right) :
    List.Forall₂ s lefts rights := by
  induction hrelated with
  | nil => exact .nil
  | cons hhead _ ih =>
    obtain ⟨hfirst, hrest⟩ := List.forall_mem_cons.mp himp
    exact .cons (hfirst _ hhead) (ih hrest)

theorem forall₂_trans_of_mem {lefts middles rights : List α}
    (hleft : List.Forall₂ r lefts middles) (hright : List.Forall₂ r middles rights)
    (htrans : ∀ left ∈ lefts, ∀ middle right, r left middle → r middle right → r left right) :
    List.Forall₂ r lefts rights := by
  induction hleft generalizing rights with
  | nil => exact hright
  | cons hhead _ ih =>
    obtain ⟨hfirst, hrest⟩ := List.forall_mem_cons.mp htrans
    cases hright with
    | cons hnext htail => exact .cons (hfirst _ _ hhead hnext) (ih htail hrest)

end

/-! ## Values -/

/-- The types of JSON values. -/
inductive Kind where
  | null
  | bool
  | number
  | string
  | array
  | object
deriving Repr, DecidableEq

namespace Value

def kind : Value → Kind
  | null => .null
  | bool _ => .bool
  | number _ => .number
  | string _ => .string
  | array _ => .array
  | object _ => .object

/-- The values of the items or members of a value. -/
def children : Value → List Value
  | array items => items
  | object members => members.map Prod.snd
  | _ => []

/-- To prove something of every value, prove it of a value whose children have it. -/
@[elab_as_elim]
theorem inductionOnChildren {motive : Value → Prop} (value : Value)
    (step : ∀ value, (∀ child ∈ value.children, motive child) → motive value) : motive value := by
  have hleaf (value : Value) (hnone : value.children = []) : motive value :=
    step value (by simp [hnone])
  exact @Value.rec motive (fun items => ∀ item ∈ items, motive item)
    (fun members => ∀ child ∈ members.map Prod.snd, motive child) (fun member => motive member.2)
    (hleaf _ rfl) (fun _ => hleaf _ rfl) (fun _ => hleaf _ rfl) (fun _ => hleaf _ rfl)
    (fun items hitems => step (array items) hitems)
    (fun members hmembers => step (object members) hmembers)
    (by simp) (fun _ _ hitem hitems => List.forall_mem_cons.mpr ⟨hitem, hitems⟩)
    (by simp) (fun _ _ hmember hmembers => List.forall_mem_cons.mpr ⟨hmember, hmembers⟩)
    (fun _ _ hvalue => hvalue) value

/-- The values are of one type and agree: numbers as `numbers` says, and items and the
values under each key one by one as `parts` says. -/
inductive Agree (numbers : Number → Number → Prop) (parts : Value → Value → Prop) :
    Value → Value → Prop where
  | null : Agree numbers parts null null
  | bool (value : Bool) : Agree numbers parts (bool value) (bool value)
  | number {left right : Number} (hnumbers : numbers left right) :
      Agree numbers parts (number left) (number right)
  | string (text : String) : Agree numbers parts (string text) (string text)
  | array {lefts rights : List Value} (hitems : List.Forall₂ parts lefts rights) :
      Agree numbers parts (array lefts) (array rights)
  | object {lefts rights : Members} (hkeys : lefts.map Prod.fst = rights.map Prod.fst)
      (hvalues : List.Forall₂ parts (lefts.map Prod.snd) (rights.map Prod.snd)) :
      Agree numbers parts (object lefts) (object rights)

/-- The values agree at every depth, with numbers of one kind and one value. -/
inductive Alike : Value → Value → Prop where
  | intro {left right : Value} (hagree : Agree Number.Alike Alike left right) : Alike left right

theorem alike_iff {left right : Value} :
    left.Alike right ↔ Agree Number.Alike Alike left right := by
  constructor
  · intro halike
    cases halike with
    | intro hagree => exact hagree
  · exact .intro

/-! ## The laws, one level at a time -/

namespace Agree

variable {numbers others : Number → Number → Prop} {parts portions : Value → Value → Prop}
  {first second third : Value}

theorem kind_eq (hagree : Agree numbers parts first second) : first.kind = second.kind := by
  cases hagree <;> rfl

theorem imp (hagree : Agree numbers parts first second)
    (hnumbers : ∀ left right, first = .number left → second = .number right →
      numbers left right → others left right)
    (hparts : ∀ child ∈ first.children, ∀ other, parts child other → portions child other) :
    Agree others portions first second := by
  cases hagree with
  | null => exact .null
  | bool value => exact .bool value
  | number hrelated => exact .number (hnumbers _ _ rfl rfl hrelated)
  | string text => exact .string text
  | array hitems => exact .array (forall₂_imp_of_mem hitems hparts)
  | object hkeys hvalues => exact .object hkeys (forall₂_imp_of_mem hvalues hparts)

theorem refl (hnumbers : Equivalence numbers) (value : Value)
    (hparts : ∀ child ∈ value.children, parts child child) : Agree numbers parts value value := by
  cases value with
  | null => exact .null
  | bool value => exact .bool value
  | number value => exact .number (hnumbers.refl value)
  | string text => exact .string text
  | array items => exact .array (List.forall₂_same.mpr hparts)
  | object members => exact .object rfl (List.forall₂_same.mpr hparts)

theorem symm (hnumbers : Equivalence numbers) (hagree : Agree numbers parts first second)
    (hparts : ∀ child ∈ first.children, ∀ other, parts child other → parts other child) :
    Agree numbers parts second first := by
  cases hagree with
  | null => exact .null
  | bool value => exact .bool value
  | number hrelated => exact .number (hnumbers.symm hrelated)
  | string text => exact .string text
  | array hitems => exact .array (forall₂_imp_of_mem hitems hparts).flip
  | object hkeys hvalues => exact .object hkeys.symm (forall₂_imp_of_mem hvalues hparts).flip

theorem trans (hnumbers : Equivalence numbers) (hleft : Agree numbers parts first second)
    (hright : Agree numbers parts second third)
    (hparts : ∀ child ∈ first.children, ∀ middle other,
      parts child middle → parts middle other → parts child other) :
    Agree numbers parts first third := by
  cases hleft with
  | null => exact hright
  | bool value => exact hright
  | string text => exact hright
  | number hrelated =>
    cases hright with
    | number hnext => exact .number (hnumbers.trans hrelated hnext)
  | array hitems =>
    cases hright with
    | array hnext => exact .array (forall₂_trans_of_mem hitems hnext hparts)
  | object hkeys hvalues =>
    cases hright with
    | object hnext hlater =>
      exact .object (hkeys.trans hnext) (forall₂_trans_of_mem hvalues hlater hparts)

end Agree

/-! ## The laws, at every depth -/

namespace Alike

theorem refl (value : Value) : value.Alike value := by
  induction value using inductionOnChildren with
  | step value ih => exact .intro (Agree.refl Number.equivalence_alike value ih)

theorem symm {left right : Value} (halike : left.Alike right) : right.Alike left := by
  induction left using inductionOnChildren generalizing right with
  | step left ih =>
    rw [alike_iff] at halike ⊢
    exact halike.symm Number.equivalence_alike fun child hchild _ => ih child hchild

theorem trans {first second third : Value} (hleft : first.Alike second)
    (hright : second.Alike third) : first.Alike third := by
  induction first using inductionOnChildren generalizing second third with
  | step first ih =>
    rw [alike_iff] at hleft hright ⊢
    exact hleft.trans Number.equivalence_alike hright fun child hchild _ _ => ih child hchild

end Alike

/-! ## How values are compared -/

theorem sameItems_iff {lefts rights : List Value} :
    sameItems lefts rights = true ↔
      List.Forall₂ (fun left right => left.same right = true) lefts rights := by
  induction lefts generalizing rights with
  | nil => cases rights <;> simp [sameItems]
  | cons left lefts ih => cases rights <;> simp [sameItems, ih]

theorem sameMembers_iff {lefts rights : Members} :
    sameMembers lefts rights = true ↔
      lefts.map Prod.fst = rights.map Prod.fst ∧
        List.Forall₂ (fun left right => left.same right = true)
          (lefts.map Prod.snd) (rights.map Prod.snd) := by
  induction lefts generalizing rights with
  | nil => cases rights <;> simp [sameMembers]
  | cons left lefts ih =>
    cases rights with
    | nil => simp [sameMembers]
    | cons right rights =>
      simp only [sameMembers, Bool.and_eq_true, beq_iff_eq, ih, List.map_cons, List.cons.injEq,
        List.forall₂_cons]
      exact and_and_and_comm

/-- One level of the comparison. -/
theorem same_iff_agree {left right : Value} :
    left.same right = true ↔
      Agree Number.Alike (fun left right => left.same right = true) left right := by
  conv_lhs => unfold same
  split
  · exact iff_of_true rfl .null
  · rw [beq_iff_eq]
    constructor
    · rintro rfl
      exact .bool _
    · intro hagree
      cases hagree
      rfl
  · rw [Number.same_iff_alike]
    constructor
    · exact .number
    · intro hagree
      cases hagree with
      | number hnumbers => exact hnumbers
  · rw [beq_iff_eq]
    constructor
    · rintro rfl
      exact .string _
    · intro hagree
      cases hagree
      rfl
  · rw [sameItems_iff]
    constructor
    · exact .array
    · intro hagree
      cases hagree with
      | array hitems => exact hitems
  · rw [sameMembers_iff]
    constructor
    · exact fun hmembers => .object hmembers.1 hmembers.2
    · intro hagree
      cases hagree with
      | object hkeys hvalues => exact ⟨hkeys, hvalues⟩
  · refine iff_of_false (by simp) ?_
    intro hagree
    cases hagree <;> simp_all

theorem same_iff_alike {left right : Value} : left.same right = true ↔ left.Alike right := by
  induction left using inductionOnChildren generalizing right with
  | step left ih =>
    rw [same_iff_agree, alike_iff]
    constructor
    · intro hagree
      exact hagree.imp (fun _ _ _ _ => id) fun child hchild _ => (ih child hchild).mp
    · intro hagree
      exact hagree.imp (fun _ _ _ _ => id) fun child hchild _ => (ih child hchild).mpr

theorem equal_iff_agree {left right : Value} :
    left.equal right = true ↔ Agree Number.NearAlike Alike left right := by
  unfold equal
  split
  · rw [beq_iff_eq, ← Number.nearAlike_iff]
    constructor
    · exact .number
    · intro hagree
      cases hagree with
      | number hnumbers => exact hnumbers
  · rename_i hnone
    -- One of the two is no number, so that no numbers are compared at the top.
    rw [same_iff_alike, alike_iff]
    constructor
    · intro hagree
      exact hagree.imp (fun left right hleft hright => (hnone left right hleft hright).elim)
        fun _ _ _ => id
    · intro hagree
      exact hagree.imp (fun left right hleft hright => (hnone left right hleft hright).elim)
        fun _ _ _ => id

theorem equal_refl (value : Value) : value.equal value = true :=
  equal_iff_agree.mpr (Agree.refl Number.equivalence_nearAlike value fun child _ => Alike.refl child)

theorem equal_symm {left right : Value} (hequal : left.equal right = true) :
    right.equal left = true := by
  rw [equal_iff_agree] at hequal ⊢
  exact hequal.symm Number.equivalence_nearAlike fun _ _ _ => Alike.symm

theorem equal_trans {first second third : Value} (hleft : first.equal second = true)
    (hright : second.equal third = true) : first.equal third = true := by
  rw [equal_iff_agree] at hleft hright ⊢
  exact hleft.trans Number.equivalence_nearAlike hright fun _ _ _ _ => Alike.trans

/-- Equal values are equal to the same values. -/
theorem equal_congr_right {first second : Value} (hequal : first.equal second = true)
    {value : Value} : value.equal first = value.equal second := by
  rw [Bool.eq_iff_iff]
  exact ⟨fun hfirst => equal_trans hfirst hequal,
    fun hsecond => equal_trans hsecond (equal_symm hequal)⟩

/-- Operands are compared by an equivalence that does not relate values of two types:
numbers at the top have one nearest binary64 number, and numbers below are of one kind and
have one value. -/
theorem equal_equivalence :
    Equivalence (fun left right : Value => left.equal right = true) ∧
    (∀ left right : Value,
      left.equal right = true ↔ Agree Number.NearAlike Alike left right) ∧
    (∀ left right : Value, left.same right = true ↔ left.Alike right) ∧
    ∀ left right : Value, left.equal right = true → left.kind = right.kind := by
  refine ⟨⟨equal_refl, equal_symm, equal_trans⟩, fun _ _ => equal_iff_agree,
    fun _ _ => same_iff_alike, fun left right hequal => ?_⟩
  exact (equal_iff_agree.mp hequal).kind_eq

end Value

end Aviso.Json
