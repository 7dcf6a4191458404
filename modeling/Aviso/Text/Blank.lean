/-!
# Blanks

The Unicode property White_Space, and texts without the blanks at their ends.
Every rule of a template that speaks of a blank means this class.
-/

namespace Aviso.Text

/-- A character with the Unicode property White_Space. -/
def isBlank (c : Char) : Bool :=
  let n := c.toNat
  (0x9 ≤ n && n ≤ 0xD) || n == 0x20 || n == 0x85 || n == 0xA0 || n == 0x1680 ||
    (0x2000 ≤ n && n ≤ 0x200A) || n == 0x2028 || n == 0x2029 || n == 0x202F || n == 0x205F ||
    n == 0x3000

/-- The text from its first character that is no blank. -/
def trimStart (text : List Char) : List Char :=
  text.dropWhile isBlank

/-- The text up to its last character that is no blank. -/
def trimEnd (text : List Char) : List Char :=
  (text.reverse.dropWhile isBlank).reverse

/-- The text without the blanks at both ends. -/
def trim (text : List Char) : List Char :=
  trimEnd (trimStart text)

/-- Whether the text begins with a blank. -/
def startsBlank : List Char → Bool
  | [] => false
  | c :: _ => isBlank c

/-- A text that neither begins nor ends with a blank. -/
def Trimmed (text : List Char) : Prop :=
  startsBlank text = false ∧ startsBlank text.reverse = false

instance (text : List Char) : Decidable (Trimmed text) :=
  inferInstanceAs (Decidable (_ ∧ _))

/-! ## What trimming leaves -/

theorem trimStart_eq_self {text : List Char} (solid : startsBlank text = false) :
    trimStart text = text := by
  cases text with
  | nil => rfl
  | cons c rest => simp_all [trimStart, startsBlank]

theorem startsBlank_trimStart (text : List Char) : startsBlank (trimStart text) = false := by
  induction text with
  | nil => rfl
  | cons c rest ih =>
    by_cases blank : isBlank c = true
    · simpa [trimStart, List.dropWhile_cons, blank] using ih
    · simp [trimStart, blank, startsBlank]

theorem trimEnd_eq_self {text : List Char} (solid : startsBlank text.reverse = false) :
    trimEnd text = text := by
  have reversed : text.reverse.dropWhile isBlank = text.reverse := trimStart_eq_self solid
  rw [trimEnd, reversed, List.reverse_reverse]

theorem trim_eq_self {text : List Char} (trimmed : Trimmed text) : trim text = text := by
  rw [trim, trimStart_eq_self trimmed.1, trimEnd_eq_self trimmed.2]

/-- What trimming at the end leaves is a beginning of the text. -/
theorem trimEnd_append_blanks (text : List Char) :
    ∃ blanks, blanks.all isBlank = true ∧ trimEnd text ++ blanks = text := by
  refine ⟨(text.reverse.takeWhile isBlank).reverse, ?_, ?_⟩
  · rw [List.all_reverse, List.all_takeWhile]
  · rw [trimEnd, ← List.reverse_append, List.takeWhile_append_dropWhile, List.reverse_reverse]

theorem trimmed_trim (text : List Char) : Trimmed (trim text) := by
  constructor
  · obtain ⟨blanks, _, whole⟩ := trimEnd_append_blanks (trimStart text)
    have start := startsBlank_trimStart text
    unfold trim
    cases kept : trimEnd (trimStart text) with
    | nil => rfl
    | cons c rest =>
      rw [kept] at whole
      rw [← whole] at start
      exact start
  · unfold trim trimEnd
    rw [List.reverse_reverse]
    exact startsBlank_trimStart _

end Aviso.Text
