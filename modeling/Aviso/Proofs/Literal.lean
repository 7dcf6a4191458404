import Aviso.Literal
import Aviso.Proofs.Binary64
import Aviso.Proofs.Text.Blank
import Aviso.Proofs.Text.Cut

/-!
# Which texts are literals

A text is a literal if it is a quotation, a truth word or a number.

* `literal?_eq_none_of_head`: a text that begins as none of these is none.
* `literal?_quotation` and `literal?_truth`: quotations and truth words are literals.
* `literal?_number_cases`: digits with a fraction are a number if they are
  `Literal.Readable`, and no literal otherwise.
* `literal?_integer`: the integers of 64 bits are literals, and by `writesInteger_repr`
  their decimal texts write them.
-/

namespace Aviso

open Text Json

/-- Blanks around a literal do not count. -/
theorem literal?_between {left text right : List Char} (hleft : Blanks left) (hright : Blanks right)
    (htrimmed : Trimmed text) : literal? (left ++ (text ++ right)) = literal? text := by
  rw [literal?, literal?, trim_between hleft hright htrimmed, trim_eq_self htrimmed]

/-! ## How a literal begins -/

/-- A trimmed text that begins neither with a quote nor as a truth word can only be a
number. -/
theorem literal?_eq_number? {c : Char} {text : List Char} (htrimmed : Trimmed (c :: text))
    (hquote : c ∉ ['\'', '"']) (hword : c.toLower ∉ ['v', 'f']) :
    literal? (c :: text) = (Literal.number? (c :: text)).map .number := by
  simp only [List.mem_cons, List.not_mem_nil, or_false, not_or] at hquote hword
  have hquotes : Literal.insideQuotes? (c :: text) = none := by
    simp [Literal.insideQuotes?, hquote]
  have htrueWord : Literal.isWord trueWord (c :: text) = false := by
    simp [Literal.isWord, trueWord, hword]
  have hfalseWord : Literal.isWord falseWord (c :: text) = false := by
    simp [Literal.isWord, falseWord, hword]
  rw [literal?, trim_eq_self htrimmed]
  simp [hquotes, htrueWord, hfalseWord]

/-- Whether a literal can begin with the character. -/
def Literal.begins (c : Char) : Bool :=
  ['\'', '"', '-', 'v', 'f'].contains c.toLower || c.isDigit

/-- A trimmed text that does not begin as a literal does is none. -/
theorem literal?_eq_none_of_head {c : Char} {text : List Char} (htrimmed : Trimmed (c :: text))
    (hhead : Literal.begins c = false) : literal? (c :: text) = none := by
  simp only [Literal.begins, Bool.or_eq_false_iff, List.contains_eq_mem, List.mem_cons,
    List.not_mem_nil, or_false, decide_eq_false_iff_not, not_or] at hhead
  obtain ⟨⟨hsingle, hdouble, hminus, htrue, hfalse⟩, hdigit⟩ := hhead
  have hother {d : Char} (hlower : d.toLower = d) (hne : ¬ c.toLower = d) : c ≠ d := by
    rintro rfl
    exact hne hlower
  have hnumber : Literal.number? (c :: text) = none := by
    unfold Literal.number?
    split
    · rename_i hsign
      exact absurd (List.cons.inj hsign).1 (hother (by decide) hminus)
    · simp [Literal.unsigned?, hdigit]
  rw [literal?_eq_number? htrimmed, hnumber]
  · rfl
  · simp [hother (by decide) hsingle, hother (by decide) hdouble]
  · simp [htrue, hfalse]

theorem eq_or_of_toLower {c d : Char} (hlower : c.toLower = d) :
    c = d ∨ c.toNat + 32 = d.toNat := by
  subst hlower
  unfold Char.toLower
  split
  · rename_i hupper
    have hlast : c.val.toNat ≤ 90 := UInt32.le_iff_toNat_le.mp hupper.2
    right
    simp only [Char.toNat, UInt32.toNat_add, UInt32.reduceSub, UInt32.reduceToNat, Char.reduceVal]
    omega
  · exact .inl rfl

/-- Only the first letter of a truth word, in one case or the other, is that letter in
lower case. -/
theorem toLower_not_mem {c : Char} (hletter : c ∉ ['V', 'v', 'F', 'f']) :
    c.toLower ∉ ['v', 'f'] := by
  simp only [List.mem_cons, List.not_mem_nil, or_false, not_or] at hletter ⊢
  obtain ⟨hupperV, hlowerV, hupperF, hlowerF⟩ := hletter
  have hother {lower upper : Char} (hlower : c ≠ lower) (hupper : c ≠ upper)
      (hcase : upper.toNat + 32 = lower.toNat) : c.toLower ≠ lower := by
    intro hsame
    rcases eq_or_of_toLower hsame with hsame | hsame
    · exact hlower hsame
    · exact hupper (Char.toNat_inj.mp (by omega))
  exact ⟨hother hlowerV hupperV (by decide), hother hlowerF hupperF (by decide)⟩

/-! ## Quotations and truth words -/

theorem trimmed_quotation {quote : Char} (hquote : quote = '\'' ∨ quote = '"')
    (inside : List Char) : Trimmed (quote :: inside ++ [quote]) := by
  have hsolid : isBlank quote = false := by
    rcases hquote with rfl | rfl <;> decide
  constructor
  · exact hsolid
  · rw [startsBlank_reverse_append (by simp)]
    exact hsolid

theorem literal?_quotation {quote : Char} (hquote : quote = '\'' ∨ quote = '"')
    (inside : List Char) :
    literal? (quote :: inside ++ [quote]) = some (.string (String.ofList inside)) := by
  have hinside : Literal.insideQuotes? (quote :: inside ++ [quote]) = some inside := by
    simp [Literal.insideQuotes?, hquote]
  rw [literal?, trim_eq_self (trimmed_quotation hquote inside), hinside]

theorem literal?_truth {word : String} (hword : word = trueWord ∨ word = falseWord) :
    literal? word.toList = some (.bool (word == trueWord)) := by
  rcases hword with rfl | rfl <;> rfl

/-! ## Numbers -/

namespace Literal

/-- The text writes the integer: ASCII digits, with a minus sign or without it. -/
inductive WritesInteger : List Char → Int → Prop where
  | unsigned {digits : List Char} (hsome : digits ≠ []) (hdigits : ∀ c ∈ digits, c.isDigit = true) :
      WritesInteger digits (digitsValue digits)
  | negated {digits : List Char} (hsome : digits ≠ []) (hdigits : ∀ c ∈ digits, c.isDigit = true) :
      WritesInteger ('-' :: digits) (-(digitsValue digits : Int))

theorem WritesInteger.eq_or_isDigit {written : List Char} {value : Int}
    (hwrites : WritesInteger written value) : ∀ c ∈ written, c = '-' ∨ c.isDigit = true := by
  cases hwrites with
  | unsigned _ hdigits => exact fun c hmem => .inr (hdigits c hmem)
  | negated _ hdigits =>
    exact List.forall_mem_cons.mpr ⟨.inl rfl, fun c hmem => .inr (hdigits c hmem)⟩

theorem WritesInteger.ne_nil {written : List Char} {value : Int}
    (hwrites : WritesInteger written value) : written ≠ [] := by
  cases hwrites with
  | unsigned hsome _ => exact hsome
  | negated _ _ => exact List.cons_ne_nil _ _

theorem WritesInteger.trimmed {written : List Char} {value : Int}
    (hwrites : WritesInteger written value) : Trimmed written := by
  apply trimmed_of_forall
  intro c hmem
  rcases hwrites.eq_or_isDigit c hmem with rfl | hdigit
  · decide
  · exact isBlank_of_isDigit hdigit

theorem digitsValue_toDigits (number : Nat) : digitsValue (Nat.toDigits 10 number) = number := by
  calc
    digitsValue (Nat.toDigits 10 number) = Nat.ofDigitChars 10 (Nat.toDigits 10 number) 0 := by
      rw [Nat.ofDigitChars_eq_foldl]
      rfl
    _ = number := Nat.ofDigitChars_ten_toDigits

/-- The decimal text of an integer writes it. -/
theorem writesInteger_repr (value : Int) : WritesInteger value.repr.toList value := by
  have hsome (number : Nat) : Nat.toDigits 10 number ≠ [] := Nat.toDigits_ne_nil
  have hdigits (number : Nat) : ∀ c ∈ Nat.toDigits 10 number, c.isDigit = true :=
    fun c hmem => Nat.isDigit_of_mem_toDigits (by decide) (by decide) hmem
  rw [Int.repr_eq_if]
  split
  · rename_i hpositive
    have hwrites := WritesInteger.unsigned (hsome value.toNat) (hdigits _)
    rw [digitsValue_toDigits, Int.toNat_of_nonneg hpositive] at hwrites
    rw [Nat.toList_repr]
    exact hwrites
  · rename_i hnegative
    have hwrites := WritesInteger.negated (hsome (-value).toNat) (hdigits _)
    rw [digitsValue_toDigits, Int.toNat_of_nonneg (by omega), Int.neg_neg] at hwrites
    rw [String.toList_append, Nat.toList_repr]
    exact hwrites

/-- A point and digits, or nothing if there are no digits. -/
def behindPoint : List Char → List Char
  | [] => []
  | c :: places => '.' :: c :: places

/-- The digits in front of the point and those behind it write a number: they are ASCII
digits, and their value does not leave the range of binary64 numbers. -/
def Readable (whole places : List Char) : Prop :=
  (∀ c ∈ whole ++ places, c.isDigit = true) ∧
    digitsValue (whole ++ places) < rangeEnd * Nat.pow 10 places.length

section Magnitude

variable {whole places : List Char}

theorem readDigits?_append {rest : List Char} (hwhole : ∀ c ∈ whole, c.isDigit = true)
    (hrest : ∀ c ∈ rest.head?, c.isDigit = false) :
    readDigits? (whole ++ rest) = if whole = [] then none else some (whole, rest) := by
  obtain ⟨htake, hdrop⟩ := span_append hwhole hrest
  simp [readDigits?, htake, hdrop]

theorem readExponent?_of_ne {c : Char} (hletter : c ≠ 'e' ∧ c ≠ 'E') (text : List Char) :
    readExponent? (c :: text) = some (none, c :: text) := by
  simp [readExponent?, hletter]

theorem magnitude?_of_parts {text behindWhole behindFraction behind : List Char}
    {exponent : Option Int} (hwhole : readDigits? text = some (whole, behindWhole))
    (hfraction : fraction behindWhole = (places, behindFraction))
    (hexponent : readExponent? behindFraction = some (exponent, behind)) :
    magnitude? text = if behind = [] then
      some ⟨digitsValue (whole ++ places), exponent.getD 0 - places.length⟩ else none := by
  simp [magnitude?, hwhole, hfraction, hexponent]

theorem fraction_behindPoint {run rest : List Char} (hrun : ∀ c ∈ run, c.isDigit = true)
    (hrest : ∀ c ∈ rest.head?, c.isDigit = false) :
    fraction (behindPoint (run ++ rest)) = (run, rest) := by
  obtain ⟨htake, hdrop⟩ := span_append hrun hrest
  cases hplaces : run ++ rest with
  | nil =>
    obtain ⟨rfl, rfl⟩ := List.append_eq_nil_iff.mp hplaces
    rfl
  | cons c places => rw [behindPoint, fraction, ← hplaces, htake, hdrop]

/-- A character that is neither an ASCII digit, a point nor an exponent's letter. -/
def Foreign (c : Char) : Prop :=
  c.isDigit = false ∧ c ∉ ['.', 'e', 'E']

/-- Digits in front of a point and behind it are a magnitude if nothing else follows. -/
theorem magnitude?_of_whole {run rest : List Char} (hsome : whole ≠ [])
    (hwhole : ∀ c ∈ whole, c.isDigit = true) (hrun : ∀ c ∈ run, c.isDigit = true)
    (hrest : ∀ c ∈ rest.head?, Foreign c) :
    magnitude? (whole ++ behindPoint (run ++ rest)) = if rest = [] then
      some ⟨digitsValue (whole ++ run), -(run.length : Int)⟩ else none := by
  have hpoint : ∀ c ∈ (behindPoint (run ++ rest)).head?, c.isDigit = false := by
    intro c hmem
    cases hplaces : run ++ rest with
    | nil =>
      rw [hplaces] at hmem
      exact absurd hmem (by simp [behindPoint])
    | cons d places =>
      rw [hplaces] at hmem
      obtain rfl := Option.some.inj hmem
      decide
  have hread := readDigits?_append hwhole hpoint
  rw [if_neg hsome] at hread
  have hfraction := fraction_behindPoint hrun fun c hmem => (hrest c hmem).1
  have hexponent : readExponent? rest = some (none, rest) := by
    cases rest with
    | nil => rfl
    | cons c rest =>
      apply readExponent?_of_ne
      have hletters := (hrest c rfl).2
      simp only [List.mem_cons, List.not_mem_nil, or_false, not_or] at hletters
      exact hletters.2
  rw [magnitude?_of_parts hread hfraction hexponent, Option.getD_none, Int.zero_sub]

/-- A text with another character behind its first digits is no magnitude. -/
theorem magnitude?_of_foreign {c : Char} (hwhole : ∀ c ∈ whole, c.isDigit = true)
    (hforeign : Foreign c) (rest : List Char) : magnitude? (whole ++ c :: rest) = none := by
  have hread := @readDigits?_append whole (c :: rest) hwhole fun d hmem => by
    obtain rfl := Option.some.inj hmem
    exact hforeign.1
  by_cases hsome : whole = []
  · rw [if_pos hsome] at hread
    simp [magnitude?, hread]
  · rw [if_neg hsome] at hread
    have hletters := hforeign.2
    simp only [List.mem_cons, List.not_mem_nil, or_false, not_or] at hletters
    have hfraction : fraction (c :: rest) = ([], c :: rest) := by
      simp [fraction, hletters]
    rw [magnitude?_of_parts hread hfraction (readExponent?_of_ne hletters.2 rest),
      if_neg (List.cons_ne_nil c rest)]

/-- Digits are a magnitude if all of them are ASCII digits. -/
theorem magnitude?_of_digits (hsome : whole ≠ [])
    (hdigits : ∀ c ∈ whole ++ places, c.isDigit = true) :
    magnitude? (whole ++ behindPoint places) =
      some ⟨digitsValue (whole ++ places), -(places.length : Int)⟩ := by
  obtain ⟨hwhole, hplaces⟩ := List.forall_mem_append.mp hdigits
  have hmagnitude := @magnitude?_of_whole _ _ [] hsome hwhole hplaces (by simp)
  rw [List.append_nil, if_pos rfl] at hmagnitude
  exact hmagnitude

theorem magnitude?_eq_none (hsome : whole ≠ [])
    (hdigits : ¬ ∀ c ∈ whole ++ places, c.isDigit = true)
    (hforeign : ∀ c ∈ whole ++ places, c.isDigit = false → Foreign c) :
    magnitude? (whole ++ behindPoint places) = none := by
  obtain ⟨run, rest, rfl, hrun, hrest⟩ := exists_span Char.isDigit whole
  cases rest with
  | cons c rest =>
    rw [List.append_assoc, List.cons_append]
    exact magnitude?_of_foreign hrun (hforeign c (by simp) (hrest c rfl)) _
  | nil =>
    rw [List.append_nil] at hsome hdigits hforeign ⊢
    obtain ⟨digits, other, rfl, hplaces, hother⟩ := exists_span Char.isDigit places
    have hstop : ∀ c ∈ other.head?, Foreign c := by
      intro c hmem
      exact hforeign c (by simp [List.mem_of_mem_head? hmem]) (hother c hmem)
    rw [magnitude?_of_whole hsome hrun hplaces hstop, if_neg]
    rintro rfl
    rw [List.append_nil] at hdigits
    exact hdigits (List.forall_mem_append.mpr ⟨hrun, hplaces⟩)

theorem integer?_of_digits {digits : List Char} (hdigits : ∀ c ∈ digits, c.isDigit = true)
    (negative : Bool) :
    integer? negative digits =
      if negative then
        if digitsValue digits ≤ Nat.pow 2 63 then some (-(digitsValue digits : Int)) else none
      else if digitsValue digits < Nat.pow 2 63 then some (digitsValue digits : Int) else none := by
  have hall : digits.all Char.isDigit = true := List.all_eq_true.mpr hdigits
  simp [integer?, hall]

theorem integer?_eq_some {negative : Bool} {text : List Char} {value : Int}
    (hinteger : integer? negative text = some value) :
    (∀ c ∈ text, c.isDigit = true) ∧ digitsValue text ≤ Nat.pow 2 63 := by
  by_cases hdigits : ∀ c ∈ text, c.isDigit = true
  · rw [integer?_of_digits hdigits] at hinteger
    refine ⟨hdigits, ?_⟩
    split at hinteger <;> split at hinteger <;> first | omega | exact absurd hinteger (by simp)
  · simp [integer?, hdigits] at hinteger

/-- Nothing but digits is read as an integer, so no point is. -/
theorem integer?_eq_some_places {negative : Bool} {value : Int}
    (hinteger : integer? negative (whole ++ behindPoint places) = some value) :
    places = [] ∧ (∀ c ∈ whole, c.isDigit = true) ∧ digitsValue whole ≤ Nat.pow 2 63 := by
  obtain ⟨hdigits, hvalue⟩ := integer?_eq_some hinteger
  cases places with
  | nil =>
    rw [behindPoint, List.append_nil] at hdigits hvalue
    exact ⟨rfl, hdigits, hvalue⟩
  | cons c places => exact absurd (hdigits '.' (by simp [behindPoint])) (by decide)

theorem unsigned?_of_integer {negative : Bool} {c : Char} {text : List Char} {value : Int}
    (hinteger : integer? negative (c :: text) = some value) :
    unsigned? negative (c :: text) = some (.integer value) := by
  have hdigit := (integer?_eq_some hinteger).1 c List.mem_cons_self
  simp [unsigned?, hdigit, hinteger]

theorem unsigned?_of_magnitude {negative : Bool} {c : Char} {text : List Char}
    (hinteger : integer? negative (c :: text) = none) :
    unsigned? negative (c :: text) = if c.isDigit then
      (magnitude? (c :: text)).bind fun magnitude =>
        (Binary64.ofDecimal? negative magnitude).map .binary64 else none := by
  simp only [unsigned?, hinteger, List.head?_cons, Option.any_some]
  cases c.isDigit with
  | false => rfl
  | true => simp [Option.map_eq_bind]

/-- Digits in front of a point and behind it are read as a number exactly when they are
readable. -/
theorem isSome_unsigned?_iff (hsome : whole ≠ [])
    (hforeign : ∀ c ∈ whole ++ places, c.isDigit = false → Foreign c) (negative : Bool) :
    (unsigned? negative (whole ++ behindPoint places)).isSome = true ↔ Readable whole places := by
  obtain ⟨c, rest, rfl⟩ := List.exists_cons_of_ne_nil hsome
  by_cases hdigits : ∀ d ∈ c :: rest ++ places, d.isDigit = true
  · cases hinteger : integer? negative (c :: (rest ++ behindPoint places)) with
    | some value =>
      obtain ⟨rfl, _, hvalue⟩ := @integer?_eq_some_places (c :: rest) _ _ _ hinteger
      have hrange : Nat.pow 2 63 < rangeEnd := by decide +kernel
      have hreadable : Readable (c :: rest) [] := by
        refine ⟨hdigits, ?_⟩
        rw [List.append_nil, List.length_nil, Nat.pow_eq, Nat.pow_zero, Nat.mul_one]
        exact Nat.lt_of_le_of_lt hvalue hrange
      rw [List.cons_append, unsigned?_of_integer hinteger]
      exact iff_of_true rfl hreadable
    | none =>
      have hmagnitude := magnitude?_of_digits hsome hdigits
      rw [List.cons_append] at hmagnitude
      rw [List.cons_append, unsigned?_of_magnitude hinteger, if_pos (hdigits c (by simp)),
        hmagnitude, Option.bind_some, Option.isSome_map, Binary64.isSome_ofDecimal?_iff,
        Readable, and_iff_right hdigits]
  · have hinteger : integer? negative (c :: (rest ++ behindPoint places)) = none := by
      rw [Option.eq_none_iff_forall_ne_some]
      intro value hinteger
      obtain ⟨rfl, hwhole, _⟩ := @integer?_eq_some_places (c :: rest) _ _ _ hinteger
      rw [List.append_nil] at hdigits
      exact hdigits hwhole
    have hmagnitude := magnitude?_eq_none hsome hdigits hforeign
    rw [List.cons_append] at hmagnitude
    rw [List.cons_append, unsigned?_of_magnitude hinteger, hmagnitude, Option.bind_none, ite_self]
    exact iff_of_false (by simp) fun hreadable => hdigits hreadable.1

end Magnitude

end Literal

section Numbers

variable {sign whole places : List Char}

/-- A trimmed text with digits behind its sign is read as a number or as nothing. -/
theorem literal?_number (hsign : sign = [] ∨ sign = ['-']) (hsome : whole ≠ [])
    (hhead : ∀ c ∈ whole, c ∉ ['-', '\'', '"'] ++ ['V', 'v', 'F', 'f'])
    (htrimmed : Trimmed (sign ++ (whole ++ Literal.behindPoint places))) :
    literal? (sign ++ (whole ++ Literal.behindPoint places)) =
      (Literal.unsigned? (sign == ['-']) (whole ++ Literal.behindPoint places)).map .number := by
  rcases hsign with rfl | rfl
  · obtain ⟨c, rest, rfl⟩ := List.exists_cons_of_ne_nil hsome
    have hfirst := hhead c List.mem_cons_self
    rw [List.mem_append, not_or, List.mem_cons, not_or] at hfirst
    obtain ⟨⟨hminus, hquote⟩, hletter⟩ := hfirst
    rw [List.nil_append, List.cons_append] at htrimmed ⊢
    rw [literal?_eq_number? htrimmed hquote (toLower_not_mem hletter), Literal.number?]
    · rfl
    · intro text htext
      exact hminus (List.cons.inj htext).1
  · exact literal?_eq_number? htrimmed (by decide) (by decide)

/-- Digits behind a sign are a number if they are readable, and no literal otherwise. -/
theorem literal?_number_cases (hsign : sign = [] ∨ sign = ['-']) (hsome : whole ≠ [])
    (hhead : ∀ c ∈ whole, c ∉ ['-', '\'', '"'] ++ ['V', 'v', 'F', 'f'])
    (hforeign : ∀ c ∈ whole ++ places, c.isDigit = false → Literal.Foreign c)
    (htrimmed : Trimmed (sign ++ (whole ++ Literal.behindPoint places))) :
    (Literal.Readable whole places ∧
      ∃ number, literal? (sign ++ (whole ++ Literal.behindPoint places)) = some (.number number)) ∨
    (¬ Literal.Readable whole places ∧
      literal? (sign ++ (whole ++ Literal.behindPoint places)) = none) := by
  have hreadable := Literal.isSome_unsigned?_iff hsome hforeign (sign == ['-'])
  rw [literal?_number hsign hsome hhead htrimmed]
  cases hnumber : Literal.unsigned? (sign == ['-']) (whole ++ Literal.behindPoint places) with
  | some number =>
    rw [hnumber] at hreadable
    exact .inl ⟨hreadable.mp rfl, number, rfl⟩
  | none =>
    rw [hnumber] at hreadable
    refine .inr ⟨fun hdigits => ?_, rfl⟩
    exact absurd (hreadable.mpr hdigits) (by simp)

/-- An integer of 64 bits is a literal. -/
theorem literal?_integer {text : List Char} {value : Int}
    (hwrites : Literal.WritesInteger text value)
    (hrange : -(Nat.pow 2 63 : Int) ≤ value ∧ value < (Nat.pow 2 63 : Int))
    (htrimmed : Trimmed text) :
    literal? text = some (.number (.integer value)) := by
  have hread {sign digits : List Char} {value : Int} (hsign : sign = [] ∨ sign = ['-'])
      (hsome : digits ≠ []) (hdigits : ∀ c ∈ digits, c.isDigit = true)
      (htrimmed : Trimmed (sign ++ digits))
      (hinteger : Literal.integer? (sign == ['-']) digits = some value) :
      literal? (sign ++ digits) = some (.number (.integer value)) := by
    have hnumber := @literal?_number sign digits [] hsign hsome
      (not_mem_of_run (by decide) hdigits)
    obtain ⟨c, rest, rfl⟩ := List.exists_cons_of_ne_nil hsome
    rw [Literal.behindPoint, List.append_nil, Literal.unsigned?_of_integer hinteger] at hnumber
    exact hnumber htrimmed
  cases hwrites with
  | unsigned hsome hdigits =>
    have hfits : digitsValue text < Nat.pow 2 63 := by omega
    apply @hread [] text _ (.inl rfl) hsome hdigits htrimmed
    rw [Literal.integer?_of_digits hdigits, if_neg (by decide), if_pos hfits]
  | @negated digits hsome hdigits =>
    have hfits : digitsValue digits ≤ Nat.pow 2 63 := by omega
    apply @hread ['-'] digits _ (.inr rfl) hsome hdigits htrimmed
    rw [Literal.integer?_of_digits hdigits, if_pos (by decide), if_pos hfits]

end Numbers

end Aviso
