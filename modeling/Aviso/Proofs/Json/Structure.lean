import Mathlib.Data.List.Induction
import Aviso.Proofs.Json.Equality

/-!
# Equality of values and of what is inside them

Numbers that are equal at the top of a value can differ inside one.  This file says for
which numbers that is so, and that nothing else about equality depends on the depth.

* `Number.Parted` are the numbers that are told apart inside a value only, and
  `Value.alike_iff_equal` is what values inside arrays and objects are compared by.
* `Members.rel_lookup_iff`: members in ascending order agree one by one exactly when the
  objects agree under every key.
* `Frame.equal_fill_iff` puts two values into the same place of a value, and
  `equal_nested_iff` does so at every depth.
* `Value.equal_structure` puts these together.
-/

namespace Aviso.Json

/-! ## Numbers that are equal at the top only -/

/-- The numbers have one nearest binary64 number, and are of two kinds or two different
integers. -/
inductive Number.Parted : Number → Number → Prop where
  | integerLeft {value : Int} {nearest : Binary64}
      (hnear : NearAlike (.integer value) (.binary64 nearest)) :
      Parted (.integer value) (.binary64 nearest)
  | integerRight {nearest : Binary64} {value : Int}
      (hnear : NearAlike (.binary64 nearest) (.integer value)) :
      Parted (.binary64 nearest) (.integer value)
  | integers {left right : Int} (hdifferent : left ≠ right) (hround : RoundAlike left right) :
      Parted (.integer left) (.integer right)

namespace Number

theorem nearAlike_integers_iff {left right : Int} :
    NearAlike (.integer left) (.integer right) ↔ RoundAlike left right := by
  rw [nearAlike_iff, ← Value.equal_integers_iff, Value.equal, beq_iff_eq]

theorem nearAlike_binary64_iff {left right : Binary64} :
    NearAlike (.binary64 left) (.binary64 right) ↔ Alike (.binary64 left) (.binary64 right) := by
  rw [nearAlike_iff, ← same_iff_alike, same, beq_iff_eq]
  rfl

theorem Alike.nearAlike {left right : Number} (halike : left.Alike right) :
    left.NearAlike right := by
  cases halike with
  | integer value => exact equivalence_nearAlike.refl _
  | binary64 hvalue => exact nearAlike_binary64_iff.mpr (.binary64 hvalue)

theorem Alike.not_parted {left right : Number} (halike : left.Alike right) :
    ¬ left.Parted right := by
  intro hparted
  cases hparted with
  | integerLeft => cases halike
  | integerRight => cases halike
  | integers hdifferent =>
    cases halike
    exact hdifferent rfl

theorem Parted.nearAlike {left right : Number} (hparted : left.Parted right) :
    left.NearAlike right := by
  cases hparted with
  | integerLeft hnear => exact hnear
  | integerRight hnear => exact hnear
  | integers _ hround => exact nearAlike_integers_iff.mpr hround

/-- Numbers of one kind and one value are those with one nearest number, but for the
numbers that are told apart inside a value. -/
theorem alike_iff {left right : Number} :
    left.Alike right ↔ left.NearAlike right ∧ ¬ left.Parted right := by
  constructor
  · intro halike
    exact ⟨halike.nearAlike, halike.not_parted⟩
  · rintro ⟨hnear, hparted⟩
    cases left with
    | integer left =>
      cases right with
      | integer right =>
        by_cases hsame : left = right
        · rw [hsame]
          exact equivalence_alike.refl _
        · exact absurd (.integers hsame (nearAlike_integers_iff.mp hnear)) hparted
      | binary64 right => exact absurd (.integerLeft hnear) hparted
    | binary64 left =>
      cases right with
      | integer right => exact absurd (.integerRight hnear) hparted
      | binary64 right => exact nearAlike_binary64_iff.mp hnear

end Number

/-! ## One level of a value -/

namespace Value

/-- The values are numbers that are told apart inside a value only. -/
def Parted (left right : Value) : Prop :=
  ∃ first second, left = number first ∧ right = number second ∧ first.Parted second

variable {left right : Value}

theorem Parted.equal (hparted : left.Parted right) : left.equal right = true := by
  obtain ⟨first, second, rfl, rfl, hparted⟩ := hparted
  exact equal_iff_agree.mpr (.number hparted.nearAlike)

/-- Values are compared inside arrays and objects as operands are, but for numbers that
are told apart there. -/
theorem alike_iff_equal : left.Alike right ↔ left.equal right = true ∧ ¬ left.Parted right := by
  rw [equal_iff_agree, alike_iff]
  constructor
  · intro hagree
    refine ⟨hagree.imp (fun _ _ _ _ => Number.Alike.nearAlike) fun _ _ _ => id, ?_⟩
    rintro ⟨first, second, rfl, rfl, hparted⟩
    cases hagree with
    | number halike => exact halike.not_parted hparted
  · rintro ⟨hagree, hnone⟩
    refine hagree.imp (fun first second hleft hright hnear => ?_) fun _ _ _ => id
    exact Number.alike_iff.mpr ⟨hnear, fun hparted => hnone ⟨first, second, hleft, hright, hparted⟩⟩

theorem equal_array_iff {lefts rights : List Value} :
    (array lefts).equal (array rights) = true ↔ List.Forall₂ Alike lefts rights := by
  rw [equal_iff_agree]
  constructor
  · intro hagree
    cases hagree with
    | array hitems => exact hitems
  · exact .array

theorem equal_object_iff {lefts rights : Members} :
    (object lefts).equal (object rights) = true ↔
      lefts.map Prod.fst = rights.map Prod.fst ∧
        List.Forall₂ Alike (lefts.map Prod.snd) (rights.map Prod.snd) := by
  rw [equal_iff_agree]
  constructor
  · intro hagree
    cases hagree with
    | object hkeys hvalues => exact ⟨hkeys, hvalues⟩
  · rintro ⟨hkeys, hvalues⟩
    exact .object hkeys hvalues

end Value

/-! ## Objects under their keys -/

namespace Members

/-- The keys are in ascending order, and each one stands once. -/
def Ascending (members : Members) : Prop :=
  members.Pairwise fun first second => first.1 < second.1

instance (members : Members) : Decidable members.Ascending :=
  inferInstanceAs (Decidable (members.Pairwise _))

theorem lookup_eq_none_of_lt {key : String} {members : Members}
    (hbefore : ∀ member ∈ members, key < member.1) : members.lookup key = none := by
  rw [List.lookup_eq_none_iff]
  intro member hmem
  rw [bne_iff_ne]
  rintro rfl
  exact String.lt_irrefl _ (hbefore member hmem)

/-- No key of an object stands in front of its first one. -/
theorem not_lt_of_isSome {key : String} {first : String × Value} {members : Members}
    (hfirst : ∀ member ∈ members, first.1 < member.1)
    (hfound : ((first :: members).lookup key).isSome = true) : ¬ key < first.1 := by
  intro hlt
  have hall : ∀ member ∈ first :: members, key < member.1 :=
    List.forall_mem_cons.mpr ⟨hlt, fun member hmem => String.lt_trans hlt (hfirst member hmem)⟩
  rw [lookup_eq_none_of_lt hall] at hfound
  exact absurd hfound (by simp)

section Related

variable {r : Value → Value → Prop}

theorem isSome_eq_of_rel {left right : Option Value} (hrelated : Option.Rel r left right) :
    left.isSome = right.isSome := by
  cases hrelated <;> rfl

theorem rel_lookup_of_forall₂ {lefts rights : Members}
    (hkeys : lefts.map Prod.fst = rights.map Prod.fst)
    (hvalues : List.Forall₂ r (lefts.map Prod.snd) (rights.map Prod.snd)) (key : String) :
    Option.Rel r (lefts.lookup key) (rights.lookup key) := by
  induction lefts generalizing rights with
  | nil =>
    obtain rfl : rights = [] := List.map_eq_nil_iff.mp hkeys.symm
    exact .none
  | cons left lefts ih =>
    cases rights with
    | nil => exact absurd hkeys (by simp)
    | cons right rights =>
      obtain ⟨leftKey, left⟩ := left
      obtain ⟨rightKey, right⟩ := right
      obtain ⟨rfl, hrest⟩ : leftKey = rightKey ∧ lefts.map Prod.fst = rights.map Prod.fst :=
        List.cons.inj hkeys
      obtain ⟨hvalue, hvalues⟩ := List.forall₂_cons.mp hvalues
      rw [List.lookup_cons, List.lookup_cons]
      cases key == leftKey with
      | true => exact .some hvalue
      | false => exact ih hrest hvalues

/-- Objects with the same keys have the same first one, since each of the two stands in the
other object, and so not in front of the other. -/
theorem fst_eq_of_rel_lookup {left right : String × Value} {lefts rights : Members}
    (hbehindLeft : ∀ member ∈ lefts, left.1 < member.1)
    (hbehindRight : ∀ member ∈ rights, right.1 < member.1)
    (hrelated : ∀ key, Option.Rel r ((left :: lefts).lookup key) ((right :: rights).lookup key)) :
    left.1 = right.1 := by
  have hleft : ¬ left.1 < right.1 := by
    apply not_lt_of_isSome hbehindRight
    rw [← isSome_eq_of_rel (hrelated left.1), List.lookup_cons_self, Option.isSome_some]
  have hright : ¬ right.1 < left.1 := by
    apply not_lt_of_isSome hbehindLeft
    rw [isSome_eq_of_rel (hrelated right.1), List.lookup_cons_self, Option.isSome_some]
  exact String.le_antisymm (String.not_lt.mp hright) (String.not_lt.mp hleft)

/-- Objects with the same keys and related values under each are related member by member,
since members in ascending order stand in one order only. -/
theorem rel_lookup_iff {lefts rights : Members} (hlefts : lefts.Ascending)
    (hrights : rights.Ascending) :
    (∀ key, Option.Rel r (lefts.lookup key) (rights.lookup key)) ↔
      lefts.map Prod.fst = rights.map Prod.fst ∧
        List.Forall₂ r (lefts.map Prod.snd) (rights.map Prod.snd) := by
  refine ⟨fun hrelated => ?_, fun hmembers => rel_lookup_of_forall₂ hmembers.1 hmembers.2⟩
  induction lefts generalizing rights with
  | nil =>
    cases rights with
    | nil => exact ⟨rfl, .nil⟩
    | cons right rights =>
      have hhead := hrelated right.1
      rw [List.lookup_cons_self] at hhead
      cases hhead
  | cons left lefts ih =>
    obtain ⟨hbefore, htail⟩ := List.pairwise_cons.mp hlefts
    cases rights with
    | nil =>
      have hhead := hrelated left.1
      rw [List.lookup_cons_self] at hhead
      cases hhead
    | cons right rights =>
      obtain ⟨hbefore', htail'⟩ := List.pairwise_cons.mp hrights
      have hfirst := fst_eq_of_rel_lookup hbefore hbefore' hrelated
      obtain ⟨leftKey, left⟩ := left
      obtain ⟨rightKey, right⟩ := right
      obtain rfl : leftKey = rightKey := hfirst
      have hvalue := hrelated leftKey
      rw [List.lookup_cons_self, List.lookup_cons_self] at hvalue
      have hrest (key : String) : Option.Rel r (lefts.lookup key) (rights.lookup key) := by
        by_cases hkey : key = leftKey
        · rw [hkey, lookup_eq_none_of_lt hbefore, lookup_eq_none_of_lt hbefore']
          exact .none
        · have hother := hrelated key
          rw [List.lookup_cons, List.lookup_cons, beq_false_of_ne hkey] at hother
          exact hother
      obtain ⟨hkeys, hvalues⟩ := ih htail htail' hrest
      cases hvalue with
      | some hvalue => exact ⟨congrArg (leftKey :: ·) hkeys, .cons hvalue hvalues⟩

end Related

/-! ## Objects that are built up -/

theorem mem_of_mem_insert {member : String × Value} {key : String} {value : Value}
    {members : Members} (hmem : member ∈ insert key value members) :
    member = (key, value) ∨ member ∈ members := by
  induction members with
  | nil => exact .inl (List.mem_singleton.mp hmem)
  | cons first members ih =>
    obtain ⟨name, old⟩ := first
    rcases Std.lt_trichotomy key name with hlt | rfl | hgt
    · rw [insert_cons_of_lt hlt] at hmem
      exact List.mem_cons.mp hmem
    · rw [insert_cons_self] at hmem
      exact (List.mem_cons.mp hmem).imp_right (List.mem_cons_of_mem _)
    · rw [insert_cons_of_gt hgt] at hmem
      rcases List.mem_cons.mp hmem with rfl | hmem
      · exact .inr List.mem_cons_self
      · exact (ih hmem).imp_right (List.mem_cons_of_mem _)

theorem Ascending.insert {members : Members} (hascending : members.Ascending) (key : String)
    (value : Value) : Members.Ascending (Json.insert key value members) := by
  induction members with
  | nil => exact List.pairwise_singleton _ _
  | cons first members ih =>
    obtain ⟨name, old⟩ := first
    obtain ⟨hfirst, htail⟩ := List.pairwise_cons.mp hascending
    rcases Std.lt_trichotomy key name with hlt | rfl | hgt
    · rw [insert_cons_of_lt hlt]
      refine List.pairwise_cons.mpr ⟨?_, hascending⟩
      exact List.forall_mem_cons.mpr
        ⟨hlt, fun member hmem => String.lt_trans hlt (hfirst member hmem)⟩
    · rw [insert_cons_self]
      exact List.pairwise_cons.mpr ⟨hfirst, htail⟩
    · rw [insert_cons_of_gt hgt]
      refine List.pairwise_cons.mpr ⟨fun member hmem => ?_, ih htail⟩
      rcases mem_of_mem_insert hmem with rfl | hmem
      · exact hgt
      · exact hfirst member hmem

/-- The members of an object that was read are in ascending order. -/
theorem ascending_ofList (written : Members) : (Members.ofList written).Ascending := by
  induction written using List.reverseRecOn with
  | nil => exact List.Pairwise.nil
  | append_singleton written member ih =>
    rw [Members.ofList, List.foldl_concat]
    exact ih.insert member.1 member.2

end Members

/-! ## Any depth of a value -/

/-- A place in a value: between the items of an array, or among the members of an object. -/
inductive Frame where
  | item (before behind : List Value)
  | member (before : Members) (key : String) (behind : Members)

/-- The value with another one at the place. -/
def Frame.fill : Frame → Value → Value
  | item before behind, value => .array (before ++ value :: behind)
  | member before key behind, value => .object (before ++ (key, value) :: behind)

/-- A value inside others, the outermost place first. -/
def nested (frames : List Frame) (value : Value) : Value :=
  frames.foldr Frame.fill value

section Places

variable {left right : Value}

theorem forall₂_place_iff {before behind : List Value} :
    List.Forall₂ Value.Alike (before ++ left :: behind) (before ++ right :: behind) ↔
      left.Alike right := by
  have hsame (values : List Value) : List.Forall₂ Value.Alike values values :=
    List.forall₂_same.mpr fun value _ => .refl value
  induction before with
  | nil => simp only [List.nil_append, List.forall₂_cons, hsame, and_true]
  | cons value before ih =>
    simp only [List.cons_append, List.forall₂_cons, Value.Alike.refl, true_and, ih]

theorem Frame.equal_fill_iff {frame : Frame} :
    (frame.fill left).equal (frame.fill right) = true ↔ left.Alike right := by
  cases frame with
  | item before behind => rw [fill, fill, Value.equal_array_iff, forall₂_place_iff]
  | member before key behind =>
    rw [fill, fill, Value.equal_object_iff]
    simp only [List.map_append, List.map_cons, forall₂_place_iff, true_and]

theorem Frame.alike_fill_iff {frame : Frame} :
    (frame.fill left).Alike (frame.fill right) ↔ left.Alike right := by
  rw [Value.alike_iff_equal, equal_fill_iff, and_iff_left]
  rintro ⟨first, second, hnumber, _⟩
  cases frame <;> exact absurd hnumber (by simp [fill])

theorem alike_nested_iff {frames : List Frame} :
    (nested frames left).Alike (nested frames right) ↔ left.Alike right := by
  induction frames with
  | nil => rfl
  | cons frame frames ih => exact Frame.alike_fill_iff.trans ih

/-- Inside a value it makes no difference how deep. -/
theorem equal_nested_iff {frames : List Frame} (hinside : frames ≠ []) :
    (nested frames left).equal (nested frames right) = true ↔ left.Alike right := by
  obtain ⟨frame, frames, rfl⟩ := List.exists_cons_of_ne_nil hinside
  exact Frame.equal_fill_iff.trans alike_nested_iff

end Places

namespace Value

/-- Two arrays are equal when they have equal items one by one, and two objects when they
have the same keys and equal values under each; and a value at a place of another, however
deep, makes equal values of them if it is equal to what stood there.  To all three there is
one exception: numbers that are told apart inside a value, though they are equal. -/
theorem equal_structure (left right : Value) (frames : List Frame)
    (leftItems rightItems : List Value) (leftMembers rightMembers : Members) :
    ((array leftItems).equal (array rightItems) = true ↔
      List.Forall₂ (fun left right => left.equal right = true ∧ ¬ left.Parted right)
        leftItems rightItems) ∧
    (leftMembers.Ascending → rightMembers.Ascending →
      ((object leftMembers).equal (object rightMembers) = true ↔
        ∀ key, Option.Rel (fun left right => left.equal right = true ∧ ¬ left.Parted right)
          (leftMembers.lookup key) (rightMembers.lookup key))) ∧
    (frames ≠ [] →
      ((nested frames left).equal (nested frames right) = true ↔
        left.equal right = true ∧ ¬ left.Parted right)) ∧
    (left.Parted right → left.equal right = true) := by
  simp only [← alike_iff_equal]
  refine ⟨equal_array_iff, fun hleft hright => ?_, equal_nested_iff, Parted.equal⟩
  rw [equal_object_iff, Members.rel_lookup_iff hleft hright]

/-- An integer and the binary64 number of its value. -/
theorem equal_structure_mixed :
    let whole : Value := number (.integer 2)
    let float : Value := number (.binary64 { negative := false, code := 4611686018427387904 })
    let lefts := Members.ofList [("b", array [whole]), ("a", whole)]
    let rights := Members.ofList [("a", whole), ("b", array [float])]
    lefts.Ascending ∧ rights.Ascending ∧ whole.Parted float ∧ whole.equal float = true ∧
      (nested [.item [] []] whole).equal (nested [.item [] []] float) = false ∧
      ¬ ∀ key, Option.Rel (fun left right => left.equal right = true ∧ ¬ left.Parted right)
        (lefts.lookup key) (rights.lookup key) := by
  intro whole float lefts rights
  obtain ⟨_, hobjects, hnested, hparted⟩ :=
    equal_structure whole float [.item [] []] [whole] [float] lefts rights
  have hlefts : lefts.Ascending := Members.ascending_ofList _
  have hrights : rights.Ascending := Members.ascending_ofList _
  have hmixed : whole.Parted float :=
    ⟨_, _, rfl, rfl, .integerLeft (Number.nearAlike_iff.mpr (by decide +kernel))⟩
  have hplace : ¬ (nested [.item [] []] whole).equal (nested [.item [] []] float) = true := by
    rw [hnested (List.cons_ne_nil _ _)]
    exact fun hboth => hboth.2 hmixed
  refine ⟨hlefts, hrights, hmixed, hparted hmixed, Bool.eq_false_iff.mpr hplace, ?_⟩
  rw [← hobjects hlefts hrights]
  decide +kernel

/-- Two equal numbers make two arrays that are not equal. -/
theorem equal_items_parted :
    let whole : Value := number (.integer 2)
    let float : Value := number (.binary64 { negative := false, code := 4611686018427387904 })
    whole.equal float = true ∧ (array [whole]).equal (array [float]) = false := by
  decide +kernel

end Value

end Aviso.Json
