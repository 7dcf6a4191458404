import Mathlib.Data.List.TakeWhile
import Aviso.Text.Blank

/-!
# What trimming keeps and removes

* `trim_eq_nil_iff`: a text of which trimming leaves nothing.
* `trim_isInfix`: what trimming leaves stands in the text.
* `exists_trim`: a text is what trimming leaves of it, between blanks.
* `trim_between`: trimming removes blanks around a trimmed text, and no more.
* `trimmed_of_forall`: a text without blanks is trimmed.
* `startsBlank_append` and `startsBlank_reverse_append`: the ends of a text do not
  depend on what stands behind it and in front of it.
-/

namespace Aviso.Text

/-- A text of blanks only. -/
def Blanks (text : List Char) : Prop :=
  ∀ c ∈ text, isBlank c = true

instance (text : List Char) : Decidable (Blanks text) :=
  decidable_of_iff (text.all isBlank = true) List.all_eq_true

theorem blanks_nil : Blanks [] := by
  intro c hmem
  exact absurd hmem (by simp)

theorem trimStart_eq_nil_iff {text : List Char} : trimStart text = [] ↔ Blanks text := by
  rw [trimStart, List.dropWhile_eq_nil_iff]
  rfl

theorem trimEnd_eq_nil_iff {text : List Char} : trimEnd text = [] ↔ Blanks text := by
  rw [trimEnd, List.reverse_eq_nil_iff, List.dropWhile_eq_nil_iff]
  exact ⟨fun h c hc => h c (List.mem_reverse.mpr hc), fun h c hc => h c (List.mem_reverse.mp hc)⟩

/-- Blanks in front of a text are removed. -/
theorem trimStart_append {blanks text : List Char} (hblanks : Blanks blanks) :
    trimStart (blanks ++ text) = trimStart text :=
  List.dropWhile_append_of_pos hblanks

/-- A text is the blanks in front of it and what trimming at the start leaves. -/
theorem exists_trimStart (text : List Char) :
    ∃ blanks, Blanks blanks ∧ text = blanks ++ trimStart text := by
  refine ⟨text.takeWhile isBlank, fun c hmem => List.mem_takeWhile_imp hmem, ?_⟩
  rw [trimStart, List.takeWhile_append_dropWhile]

/-- A text is what trimming leaves of it, between blanks. -/
theorem exists_trim (text : List Char) :
    ∃ left right, Blanks left ∧ Blanks right ∧ text = left ++ (trim text ++ right) := by
  obtain ⟨left, hleft, htext⟩ := exists_trimStart text
  obtain ⟨right, hright, hend⟩ := trimEnd_append_blanks (trimStart text)
  refine ⟨left, right, hleft, List.all_eq_true.mp hright, ?_⟩
  rw [trim, hend]
  exact htext

theorem trim_isInfix (text : List Char) : trim text <:+: text := by
  obtain ⟨left, right, _, _, htext⟩ := exists_trim text
  exact ⟨left, right, by rw [List.append_assoc, ← htext]⟩

theorem trim_eq_nil_iff {text : List Char} : trim text = [] ↔ Blanks text := by
  rw [trim, trimEnd_eq_nil_iff]
  constructor
  · intro hblanks
    obtain ⟨left, hleft, htext⟩ := exists_trimStart text
    intro c hmem
    rw [htext] at hmem
    rcases List.mem_append.mp hmem with hmem | hmem
    · exact hleft c hmem
    · exact hblanks c hmem
  · intro hblanks
    rw [trimStart_eq_nil_iff.mpr hblanks]
    exact blanks_nil

/-- Trimming removes the blanks around a trimmed text, and no more. -/
theorem trim_between {left text right : List Char} (hleft : Blanks left) (hright : Blanks right)
    (htrimmed : Trimmed text) : trim (left ++ (text ++ right)) = text := by
  rw [trim, trimStart_append hleft]
  cases text with
  | nil =>
    rw [List.nil_append, trimStart_eq_nil_iff.mpr hright]
    rfl
  | cons c text =>
    have hsolid : startsBlank (c :: text ++ right) = false := htrimmed.1
    have hreverse : Blanks right.reverse := fun d hmem => hright d (List.mem_reverse.mp hmem)
    rw [trimStart_eq_self hsolid, trimEnd, List.reverse_append]
    have hend : ((right.reverse ++ (c :: text).reverse).dropWhile isBlank) =
        (c :: text).reverse := by
      have hstart := @trimStart_append _ (c :: text).reverse hreverse
      rw [trimStart_eq_self htrimmed.2] at hstart
      exact hstart
    rw [hend, List.reverse_reverse]

/-! ## The ends of a text -/

theorem isBlank_of_isDigit {c : Char} (hdigit : c.isDigit = true) : isBlank c = false := by
  have hrange : 48 ≤ c.toNat ∧ c.toNat ≤ 57 := Char.isDigit_iff_toNat.mp hdigit
  simp only [isBlank, Bool.or_eq_false_iff, Bool.and_eq_false_iff, decide_eq_false_iff_not,
    beq_eq_false_iff_ne]
  omega

/-- A text that holds no blank is trimmed. -/
theorem trimmed_of_forall {text : List Char} (hsolid : ∀ c ∈ text, isBlank c = false) :
    Trimmed text := by
  have hstart (text : List Char) (hsolid : ∀ c ∈ text, isBlank c = false) :
      startsBlank text = false := by
    cases text with
    | nil => rfl
    | cons c text => exact hsolid c List.mem_cons_self
  exact ⟨hstart text hsolid, hstart _ fun c hmem => hsolid c (List.mem_reverse.mp hmem)⟩

theorem startsBlank_append {text : List Char} (hsome : text ≠ []) (behind : List Char) :
    startsBlank (text ++ behind) = startsBlank text := by
  cases text with
  | nil => exact absurd rfl hsome
  | cons c text => rfl

theorem startsBlank_reverse_append {text : List Char} (hsome : text ≠ []) (front : List Char) :
    startsBlank (front ++ text).reverse = startsBlank text.reverse := by
  rw [List.reverse_append, startsBlank_append (by simpa using hsome)]

end Aviso.Text
