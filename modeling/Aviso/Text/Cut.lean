/-!
# Cutting at a marker

`after?` removes a marker from the front of a text and `cut?` divides a text at
the first place where the marker stands.  Main statements: what `cut?` returns
puts the text together again, and the part before holds no earlier occurrence.
-/

namespace Aviso.Text

/-- The text behind the marker, if the text begins with it. -/
def after? : List Char → List Char → Option (List Char)
  | [], text => some text
  | _ :: _, [] => none
  | m :: marker, c :: text => if m = c then after? marker text else none

/-- The text before and behind the first occurrence of the marker. -/
def cut? (marker : List Char) : List Char → Option (List Char × List Char)
  | [] => (after? marker []).map fun behind => ([], behind)
  | c :: text =>
    match after? marker (c :: text) with
    | some behind => some ([], behind)
    | none => (cut? marker text).map fun parts => (c :: parts.1, parts.2)

/-- The first of several markers that begins the text, with the text behind it. -/
def afterAny? : List (List Char × α) → List Char → Option (α × List Char)
  | [], _ => none
  | (marker, value) :: markers, text =>
    match after? marker text with
    | some behind => some (value, behind)
    | none => afterAny? markers text

/-! ## What is found -/

theorem after?_eq_some_iff {marker text behind : List Char} :
    after? marker text = some behind ↔ text = marker ++ behind := by
  induction marker generalizing text with
  | nil => simp [after?]
  | cons m marker ih =>
    cases text with
    | nil => simp [after?]
    | cons c text => by_cases same : m = c <;> simp_all [after?, eq_comm]

@[simp] theorem after?_append (marker behind : List Char) :
    after? marker (marker ++ behind) = some behind :=
  after?_eq_some_iff.mpr rfl

theorem append_of_cut? {marker text before behind : List Char}
    (found : cut? marker text = some (before, behind)) : text = before ++ marker ++ behind := by
  induction text generalizing before with
  | nil =>
    simp only [cut?, Option.map_eq_some_iff, Prod.mk.injEq] at found
    obtain ⟨rest, start, rfl, rfl⟩ := found
    simpa using after?_eq_some_iff.mp start
  | cons c text ih =>
    unfold cut? at found
    split at found
    · rename_i rest start
      simp only [Option.some.injEq, Prod.mk.injEq] at found
      obtain ⟨rfl, rfl⟩ := found
      simpa using after?_eq_some_iff.mp start
    · simp only [Option.map_eq_some_iff, Prod.mk.injEq] at found
      obtain ⟨parts, inner, rfl, rfl⟩ := found
      simpa using ih inner

/-- The cut is at the first occurrence: the marker begins at no earlier place. -/
theorem first_of_cut? {marker text before behind : List Char}
    (found : cut? marker text = some (before, behind)) {front back : List Char}
    (split : before = front ++ back) (inside : back ≠ []) :
    after? marker (back ++ marker ++ behind) = none := by
  induction text generalizing before front with
  | nil =>
    simp only [cut?, Option.map_eq_some_iff, Prod.mk.injEq] at found
    obtain ⟨_, _, rfl, _⟩ := found
    exact absurd (List.append_eq_nil_iff.mp split.symm).2 inside
  | cons c text ih =>
    have whole := append_of_cut? found
    unfold cut? at found
    split at found
    · simp only [Option.some.injEq, Prod.mk.injEq] at found
      obtain ⟨rfl, _⟩ := found
      exact absurd (List.append_eq_nil_iff.mp split.symm).2 inside
    · rename_i start
      simp only [Option.map_eq_some_iff, Prod.mk.injEq] at found
      obtain ⟨parts, inner, shape, rfl⟩ := found
      cases front with
      | nil =>
        rw [List.nil_append] at split
        rw [← split, ← whole]
        exact start
      | cons d front =>
        rw [← shape] at split
        exact ih inner (List.cons.inj split).2

end Aviso.Text
