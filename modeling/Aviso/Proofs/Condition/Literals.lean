import Aviso.Proofs.Condition.Tokens

/-!
# Literals between blanks

A literal of a condition may stand without braces.  Where no word touches it in
front and nothing or a blank follows it, it is read as it is written.

* `read_literal`: the token reader takes the whole literal.
* `trimmed_literal` and `exists_cons_literal`: with which characters a literal
  begins and ends.
-/

namespace Aviso.Token

open Text

/-! ## Numbers -/

theorem isDigit_of_ascii {c : Char} (hascii : c.isDigit = true) : isDigit c = true := by
  rw [Char.isDigit_iff_toNat] at hascii
  exact (covers_iff digitRanges_ascending c.toNat).mpr ⟨(0x30, 0x39), by decide, hascii⟩

/-- Nothing stands behind, or a blank. -/
def AtBlank (behind : List Char) : Prop :=
  ∀ c ∈ behind.head?, isBlank c = true

theorem AtBlank.startsWord_eq {behind : List Char} (hblank : AtBlank behind) :
    startsWord behind = false := by
  cases behind with
  | nil => rfl
  | cons c behind => exact isWord_of_isBlank (hblank c rfl)

theorem AtBlank.readFraction?_eq {behind : List Char} (hblank : AtBlank behind) :
    readFraction? behind = none := by
  unfold readFraction?
  split
  · exact absurd (hblank '.' rfl) (by decide)
  · rfl

theorem AtBlank.not_digit {behind : List Char} (hblank : AtBlank behind) :
    ∀ c ∈ behind.head?, isDigit c = false :=
  fun c hmem => isDigit_of_isBlank (hblank c hmem)

/-- A number in front of a blank is read as it is written. -/
theorem readUnsigned?_append {whole fraction behind : List Char}
    (hwhole : whole ≠ [] ∧ ∀ c ∈ whole, isDigit c = true)
    (hfraction : fraction = [] ∨ ∃ digits, fraction = '.' :: digits ∧
      digits ≠ [] ∧ ∀ c ∈ digits, isDigit c = true) (hblank : AtBlank behind) :
    readUnsigned? (whole ++ (fraction ++ behind)) = some (whole ++ fraction, behind) := by
  rcases hfraction with rfl | ⟨digits, rfl, hsome, hdigits⟩
  · obtain ⟨htake, hdrop⟩ := span_append hwhole.2 hblank.not_digit
    simp [readUnsigned?, htake, hdrop, hwhole.1, hblank.readFraction?_eq, hblank.startsWord_eq]
  · have hpoint : ∀ c ∈ ('.' :: (digits ++ behind)).head?, isDigit c = false := by
      intro c hmem
      obtain rfl := Option.some.inj hmem
      decide
    obtain ⟨htake, hdrop⟩ := span_append hwhole.2 hpoint
    obtain ⟨htake', hdrop'⟩ := span_append hdigits hblank.not_digit
    simp [readUnsigned?, htake, hdrop, hwhole.1, readFraction?, htake', hdrop', hsome,
      hblank.startsWord_eq]

theorem readNumber?_append {sign whole fraction behind : List Char} {before : Option Char}
    (hsign : sign = [] ∨ sign = ['-']) (hwhole : whole ≠ [] ∧ ∀ c ∈ whole, isDigit c = true)
    (hfraction : fraction = [] ∨ ∃ digits, fraction = '.' :: digits ∧
      digits ≠ [] ∧ ∀ c ∈ digits, isDigit c = true)
    (hbefore : before.any isWord = false) (hblank : AtBlank behind) :
    readNumber? before (sign ++ (whole ++ fraction) ++ behind) =
      some (sign ++ (whole ++ fraction), behind) := by
  have hunsigned := readUnsigned?_append hwhole hfraction hblank
  rw [List.append_assoc, List.append_assoc]
  rcases hsign with rfl | rfl
  · rw [List.nil_append, List.nil_append, readNumber?_of_digits hwhole, hbefore, hunsigned]
    rfl
  · rw [List.singleton_append, readNumber?, hunsigned]
    rfl

/-! ## With which characters a literal begins and ends -/

theorem ne_of_isDigit {c d : Char} (hdigit : isDigit c = true) (hother : isDigit d = false) :
    c ≠ d := by
  rintro rfl
  rw [hdigit] at hother
  exact absurd hother (by decide)

/-- Digits begin with a character that is no blank. -/
theorem startsBlank_digits {digits : List Char} (hdigits : ∀ c ∈ digits, isDigit c = true) :
    startsBlank digits = false := by
  cases digits with
  | nil => rfl
  | cons c digits =>
    rw [startsBlank, ← Bool.not_eq_true]
    intro hblank
    exact absurd (hdigits c List.mem_cons_self) (by simp [isDigit_of_isBlank hblank])

theorem exists_cons_number {sign whole : List Char} (hsign : sign = [] ∨ sign = ['-'])
    (hwhole : whole ≠ [] ∧ ∀ c ∈ whole, isDigit c = true) (fraction : List Char) :
    ∃ c rest, sign ++ (whole ++ fraction) = c :: rest ∧ (c = '-' ∨ isDigit c = true) := by
  rcases hsign with rfl | rfl
  · cases whole with
    | nil => exact absurd rfl hwhole.1
    | cons c whole => exact ⟨c, whole ++ fraction, rfl, .inr (hwhole.2 c List.mem_cons_self)⟩
  · exact ⟨'-', whole ++ fraction, rfl, .inl rfl⟩

/-- A literal begins with a quote, a sign, a digit or the first letter of a truth
word. -/
theorem exists_cons_literal {written : String} {text : List Char}
    (hspelt : Spelt (.literal written) text) :
    ∃ c rest, text = c :: rest ∧
      ((c = '\'' ∨ c = '"') ∨ (c = '-' ∨ isDigit c = true) ∨ (c = 'V' ∨ c = 'F')) := by
  cases hspelt with
  | @quotation quote inside hquote => exact ⟨quote, inside ++ [quote], rfl, .inl hquote⟩
  | number hsign hwhole =>
    obtain ⟨c, rest, htext, hhead⟩ := exists_cons_number hsign hwhole _
    exact ⟨c, rest, htext, .inr (.inl hhead)⟩
  | truth hword =>
    rcases hword with rfl | rfl
    · exact ⟨'V', "ERDADERO".toList, by decide, by simp⟩
    · exact ⟨'F', "ALSO".toList, by decide, by simp⟩

/-- No literal begins with a character that none of these is. -/
theorem ne_of_literal {c d : Char}
    (hhead : (c = '\'' ∨ c = '"') ∨ (c = '-' ∨ isDigit c = true) ∨ (c = 'V' ∨ c = 'F'))
    (hother : isDigit d = false ∧ d ∉ ['\'', '"', '-', 'V', 'F']) : c ≠ d := by
  rcases hhead with (rfl | rfl) | (rfl | hdigit) | (rfl | rfl)
  · rintro rfl
    exact hother.2 (by decide)
  · rintro rfl
    exact hother.2 (by decide)
  · rintro rfl
    exact hother.2 (by decide)
  · exact ne_of_isDigit hdigit hother.1
  · rintro rfl
    exact hother.2 (by decide)
  · rintro rfl
    exact hother.2 (by decide)

/-- A literal neither begins nor ends with a blank. -/
theorem trimmed_literal {written : String} {text : List Char}
    (hspelt : Spelt (.literal written) text) : Trimmed text := by
  constructor
  · obtain ⟨c, rest, rfl, hhead⟩ := exists_cons_literal hspelt
    rw [startsBlank, ← Bool.not_eq_true]
    intro hblank
    rcases hhead with (rfl | rfl) | (rfl | hdigit) | (rfl | rfl)
    all_goals first
      | exact absurd hblank (by decide)
      | exact absurd hdigit (by simp [isDigit_of_isBlank hblank])
  · cases hspelt with
    | quotation hquote =>
      rw [List.reverse_append, List.reverse_singleton, List.singleton_append, startsBlank]
      rcases hquote with rfl | rfl <;> decide
    | @number sign whole fraction hsign hwhole hfraction =>
      have hdigits {digits : List Char} (front : List Char)
          (hsome : digits ≠ [] ∧ ∀ c ∈ digits, isDigit c = true) :
          startsBlank (front ++ digits).reverse = false := by
        rw [startsBlank_reverse_append hsome.1]
        exact startsBlank_digits fun c hmem => hsome.2 c (List.mem_reverse.mp hmem)
      rcases hfraction with rfl | ⟨digits, rfl, hplaces⟩
      · rw [List.append_nil]
        exact hdigits sign hwhole
      · rw [← List.append_assoc, List.append_cons]
        exact hdigits _ hplaces
    | truth hword => rcases hword with rfl | rfl <;> decide

/-! ## Reading -/

theorem readQuotation?_of_ne {c : Char} (hquote : c ≠ '\'' ∧ c ≠ '"') (text : List Char) :
    readQuotation? (c :: text) = none := by
  simp [readQuotation?, hquote]

theorem readLiteral?_append {written : String} {text behind : List Char} {before : Option Char}
    (hspelt : Spelt (.literal written) text) (hbefore : before.any isWord = false)
    (hblank : AtBlank behind) : readLiteral? before (text ++ behind) = some (text, behind) := by
  rw [readLiteral?]
  cases hspelt with
  | quotation hquote hfree =>
    rw [readQuotation?_append hquote hfree]
    rfl
  | @number sign whole fraction hsign hwhole hfraction =>
    obtain ⟨c, rest, htext, hhead⟩ := exists_cons_number hsign hwhole fraction
    have hquotation : readQuotation? (sign ++ (whole ++ fraction) ++ behind) = none := by
      rw [htext]
      apply readQuotation?_of_ne
      rcases hhead with rfl | hdigit
      · decide
      · exact ⟨ne_of_isDigit hdigit (by decide), ne_of_isDigit hdigit (by decide)⟩
    rw [hquotation, readNumber?_append hsign hwhole hfraction hbefore hblank]
    rfl
  | truth hword =>
    have hfirst : ∃ c rest, written.toList = c :: rest ∧ isPlain c = true := by
      rcases hword with rfl | rfl
      · exact ⟨'V', "ERDADERO".toList, by decide, by decide⟩
      · exact ⟨'F', "ALSO".toList, by decide, by decide⟩
    obtain ⟨c, rest, htext, hplain⟩ := hfirst
    have hquotation : readQuotation? (written.toList ++ behind) = none := by
      rw [htext]
      apply readQuotation?_of_ne
      constructor <;> rintro rfl <;> exact absurd hplain (by decide)
    have hnumber : readNumber? before (written.toList ++ behind) = none := by
      rw [htext]
      exact readNumber?_of_isPlain hplain before _
    rw [hquotation, hnumber, readTruth?_append hword hbefore hblank.startsWord_eq]
    rfl

/-- A literal between blanks is read as it is written. -/
theorem read_literal {written : String} {text behind : List Char} {before : Option Char}
    (hspelt : Spelt (.literal written) text) (hbefore : before.any isWord = false)
    (hblank : AtBlank behind) :
    read before (text ++ behind) = some (.literal (String.ofList text), behind) := by
  have hplaceholder : readPlaceholder? (text ++ behind) = none := by
    obtain ⟨c, rest, rfl, hhead⟩ := exists_cons_literal hspelt
    rw [List.cons_append, readPlaceholder?,
      Placeholder.read?_of_ne (ne_of_literal hhead (by decide))]
    rfl
  rw [read, hplaceholder, readLiteral?_append hspelt hbefore hblank]
  rfl

end Aviso.Token
