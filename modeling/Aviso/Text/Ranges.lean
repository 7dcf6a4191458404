/-!
# Range tables

A character class is a list of code point ranges, both ends included, in
ascending order.  `covers` looks a code point up and stops at the first range
that lies behind it, so it is exact on ascending tables only.
-/

namespace Aviso.Text

/-- Whether some range of the ascending table holds the code point. -/
def covers : List (Nat × Nat) → Nat → Bool
  | [], _ => false
  | (first, last) :: ranges, n =>
    if n < first then false else n ≤ last || covers ranges n

/-- Every range of the table starts at or above the bound, ends no earlier than
it starts, and lies before the next one. -/
def Ascending : Nat → List (Nat × Nat) → Prop
  | _, [] => True
  | bound, (first, last) :: ranges => bound ≤ first ∧ first ≤ last ∧ Ascending (last + 1) ranges

instance : (bound : Nat) → (ranges : List (Nat × Nat)) → Decidable (Ascending bound ranges)
  | _, [] => inferInstanceAs (Decidable True)
  | bound, (first, last) :: ranges =>
    have : Decidable (Ascending (last + 1) ranges) := instDecidableAscending (last + 1) ranges
    inferInstanceAs (Decidable (bound ≤ first ∧ first ≤ last ∧ Ascending (last + 1) ranges))

/-- Below the bound of an ascending table no range holds a code point. -/
theorem Ascending.le_of_mem {bound : Nat} {ranges : List (Nat × Nat)}
    (ascending : Ascending bound ranges) {range : Nat × Nat} (member : range ∈ ranges) :
    bound ≤ range.1 := by
  induction ranges generalizing bound with
  | nil => simp at member
  | cons head tail ih =>
    obtain ⟨first, last⟩ := head
    obtain ⟨start, order, rest⟩ := ascending
    rcases List.mem_cons.mp member with rfl | member
    · exact start
    · have := ih rest member
      omega

/-- On an ascending table the early stop loses nothing. -/
theorem covers_iff {bound : Nat} {ranges : List (Nat × Nat)} (ascending : Ascending bound ranges)
    (n : Nat) : covers ranges n = true ↔ ∃ range ∈ ranges, range.1 ≤ n ∧ n ≤ range.2 := by
  induction ranges generalizing bound with
  | nil => simp [covers]
  | cons head tail ih =>
    obtain ⟨first, last⟩ := head
    obtain ⟨start, order, rest⟩ := ascending
    by_cases before : n < first
    · simp only [covers, before, if_true, Bool.false_eq_true, false_iff]
      rintro ⟨range, member, low, high⟩
      rcases List.mem_cons.mp member with rfl | member
      · omega
      · have := rest.le_of_mem member
        omega
    · have tailIff := ih rest
      simp only [covers, before, if_false, Bool.or_eq_true, decide_eq_true_eq, tailIff,
        List.mem_cons, exists_eq_or_imp]
      constructor
      · rintro (high | found)
        · exact Or.inl ⟨by omega, high⟩
        · exact Or.inr found
      · rintro (⟨_, high⟩ | found)
        · exact Or.inl high
        · exact Or.inr found

end Aviso.Text
