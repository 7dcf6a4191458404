import Mathlib.Data.List.Chain
import Aviso.Proofs.Condition.Literals
import Aviso.Proofs.Condition.Segments

/-!
# Where no joint begins

A joint is a blank, the letter of a connective and blanks, in front of opening
braces.  So none begins in a text that lacks one of these.

* `undivided_before_iff`: no joint reaches over a character that it does not hold.
* `undivided_of_opening_free`: a text without opening braces.
* `silent_print` and `silent_literal`: placeholders and literals.
* `undivided_quotation_iff`: a quotation, if none stands between its quotes.
* `silent_blanks` and `silent_keyword`: blanks, and the spellings of comparators.
-/

namespace Aviso.Connective

open Text

theorem not_mem_of_joint {connective : Connective} {joint : List Char} {c : Char}
    (hjoint : Joint connective joint) (hsolid : isBlank c = false)
    (hletter : ofKeyword? c = none) : c ∉ joint := by
  rcases hjoint with ⟨blank, blanks, rfl, hblank, hblanks, _⟩
  intro hmem
  rcases List.mem_cons.mp hmem with rfl | hmem
  · rw [hblank] at hsolid
    exact absurd hsolid (by decide)
  · rcases List.mem_cons.mp hmem with rfl | hmem
    · rw [ofKeyword?_keyword] at hletter
      exact absurd hletter (by simp)
    · rw [hblanks c hmem] at hsolid
      exact absurd hsolid (by decide)

/-! ## Operands -/

/-- A text without blanks. -/
def Solid (text : List Char) : Prop :=
  ∀ c ∈ text, isBlank c = false

instance (text : List Char) : Decidable (Solid text) :=
  decidable_of_iff (text.all (fun c => !isBlank c) = true) (by simp [Solid])

theorem solid_append {front back : List Char} (hfront : Solid front) (hback : Solid back) :
    Solid (front ++ back) :=
  List.forall_mem_append.mpr ⟨hfront, hback⟩

theorem read_solid {c : Char} (hsolid : isBlank c = false) (before : Option Char)
    (text : List Char) : Connective.read before (c :: text) = none := by
  cases hread : Connective.read before (c :: text) with
  | none => rfl
  | some found =>
    obtain ⟨joint, htext, ⟨blank, blanks, rfl, hblank, _⟩, _⟩ := read_eq_some_iff.mp hread
    obtain ⟨rfl, _⟩ := List.cons.inj htext
    rw [hblank] at hsolid
    exact absurd hsolid (by decide)

theorem silent_solid {text : List Char} (hsolid : Solid text)
    (before : Option Char) (rest : List Char) : Silent Connective.read before text rest :=
  silent_of_forall (fun c hmem _ _ => read_solid (hsolid c hmem) _ _) before rest

/-- A segment that is divided nowhere in front of a text is divided nowhere by itself. -/
theorem undivided_of_before {segment behind : List Char} (hundivided : Undivided segment behind) :
    Undivided segment [] := by
  intro front back joint more hsplit hback htext hopens
  rw [List.append_nil] at htext
  refine hundivided front back joint (more ++ behind) hsplit hback ?_
    (hopens.trans (List.prefix_append _ _))
  rw [htext, List.append_assoc]

/-- A joint and the braces behind it do not reach over a character that they do not
hold. -/
theorem undivided_before_iff {text : List Char} {c : Char} (hsolid : isBlank c = false)
    (hletter : ofKeyword? c = none) (hbrace : c ≠ '{') (rest : List Char) :
    Undivided text (c :: rest) ↔ Undivided text [] := by
  refine ⟨undivided_of_before, fun hundivided => ?_⟩
  intro front back joint more hsplit hback htext hopens connective hjoint
  have hbegins : joint ++ Placeholder.opening <+: back ++ c :: rest := by
    rw [htext]
    exact (List.prefix_append_right_inj joint).mpr hopens
  have hfree : c ∉ joint ++ Placeholder.opening := by
    rw [List.mem_append, not_or]
    exact ⟨not_mem_of_joint hjoint hsolid hletter, by simp [Placeholder.opening, hbrace]⟩
  rcases begins_of_not_mem hbegins hfree with ⟨behind, hbehind⟩
  refine hundivided front back joint (Placeholder.opening ++ behind) hsplit hback ?_
    (List.prefix_append _ _) connective hjoint
  rw [List.append_nil, ← hbehind, List.append_assoc]

/-- No joint stands in a text without opening braces. -/
theorem undivided_of_opening_free {text : List Char}
    (hopening : ¬ Placeholder.opening <:+: text) : Undivided text [] := by
  rintro front back joint more rfl _ htext hopens _ _
  rw [List.append_nil] at htext
  subst htext
  exact hopening (hopens.isInfix.trans
    ((List.suffix_append joint more).trans (List.suffix_append front _)).isInfix)

theorem silent_of_opening_free {text : List Char} {c : Char}
    (hopening : ¬ Placeholder.opening <:+: text) (hsolid : isBlank c = false)
    (hletter : ofKeyword? c = none) (hbrace : c ≠ '{') (before : Option Char)
    (rest : List Char) : Silent Connective.read before text (c :: rest) :=
  (undivided_iff_silent before).mp
    ((undivided_before_iff hsolid hletter hbrace rest).mpr (undivided_of_opening_free hopening))

/-- No joint begins in a placeholder whose expression holds no opening braces. -/
theorem silent_print {expression : List Char} (hopening : ¬ Placeholder.opening <:+: expression)
    (before : Option Char) (rest : List Char) :
    Silent Connective.read before (Placeholder.print expression) rest := by
  rw [Placeholder.print, silent_append_iff, silent_append_iff]
  exact ⟨⟨silent_solid (by decide) _ _,
    silent_of_opening_free hopening (by decide) (by decide) (by decide) _ _⟩,
    silent_solid (by decide) _ _⟩

/-- A joint in a quotation is a joint in the text between its quotes. -/
theorem undivided_quotation_iff {quote : Char} {inside : List Char}
    (hquote : quote = '\'' ∨ quote = '"') (behind : List Char) :
    Undivided (quote :: inside ++ [quote]) behind ↔ Undivided inside [] := by
  have hends : isBlank quote = false ∧ ofKeyword? quote = none ∧ quote ≠ '{' := by
    rcases hquote with rfl | rfl <;> decide
  have hquotes (behind : List Char) : Undivided [quote] behind :=
    (undivided_iff_silent none).mpr
      (silent_solid (List.forall_mem_singleton.mpr hends.1) none behind)
  have hinside : Undivided inside (quote :: behind) ↔ Undivided inside [] :=
    undivided_before_iff hends.1 hends.2.1 hends.2.2 behind
  rw [List.cons_append, ← List.singleton_append, undivided_append_iff, undivided_append_iff,
    List.singleton_append, hinside]
  exact ⟨fun hparts => hparts.2.1, fun hundivided => ⟨hquotes _, hundivided, hquotes _⟩⟩

/-- A number holds no blank. -/
theorem solid_number {sign whole fraction : List Char} (hsign : sign = [] ∨ sign = ['-'])
    (hwhole : whole ≠ [] ∧ ∀ c ∈ whole, isDigit c = true)
    (hfraction : fraction = [] ∨ ∃ digits, fraction = '.' :: digits ∧
      digits ≠ [] ∧ ∀ c ∈ digits, isDigit c = true) : Solid (sign ++ (whole ++ fraction)) := by
  have hdigits {digits : List Char} (hall : ∀ c ∈ digits, isDigit c = true) : Solid digits := by
    intro c hmem
    rw [← Bool.not_eq_true]
    intro hblank
    exact absurd (hall c hmem) (by simp [Token.isDigit_of_isBlank hblank])
  have hsigns : Solid sign := by
    rcases hsign with rfl | rfl <;> decide
  have hplaces : Solid fraction := by
    rcases hfraction with rfl | ⟨digits, rfl, _, hall⟩
    · decide
    · exact List.forall_mem_cons.mpr ⟨by decide, hdigits hall⟩
  exact solid_append hsigns (solid_append (hdigits hwhole.2) hplaces)

theorem solid_truth {word : String} (hword : word = trueWord ∨ word = falseWord) :
    Solid word.toList := by
  rcases hword with rfl | rfl <;> decide

/-- No joint begins in a literal without opening braces.  Only a quotation holds
blanks. -/
theorem silent_literal {written : String} {text : List Char}
    (hspelt : Token.Spelt (.literal written) text) (hopening : ¬ Placeholder.opening <:+: text)
    (before : Option Char) (rest : List Char) : Silent Connective.read before text rest := by
  cases hspelt with
  | @quotation quote inside hquote =>
    have hinside : ¬ Placeholder.opening <:+: inside := fun hwithin =>
      hopening (hwithin.trans ⟨[quote], [quote], rfl⟩)
    exact (undivided_iff_silent before).mp
      ((undivided_quotation_iff hquote rest).mpr (undivided_of_opening_free hinside))
  | number hsign hwhole hfraction =>
    exact silent_solid (solid_number hsign hwhole hfraction) before rest
  | truth hword => exact silent_solid (solid_truth hword) before rest

/-! ## What stands between operands -/

/-- The letter of no connective stands behind a blank. -/
def Apart (c d : Char) : Prop :=
  isBlank c = true → ofKeyword? d = none

instance : DecidableRel Apart :=
  fun c d => inferInstanceAs (Decidable (isBlank c = true → ofKeyword? d = none))

theorem read_apart {c : Char} {text : List Char} (hapart : ∀ d ∈ text.head?, Apart c d)
    (before : Option Char) : Connective.read before (c :: text) = none := by
  cases hread : Connective.read before (c :: text) with
  | none => rfl
  | some found =>
    obtain ⟨joint, htext, ⟨blank, blanks, rfl, hblank, _⟩, _⟩ := read_eq_some_iff.mp hread
    obtain ⟨rfl, rfl⟩ := List.cons.inj htext
    have hletter := hapart found.1.keyword rfl hblank
    rw [ofKeyword?_keyword] at hletter
    exact absurd hletter (by simp)

/-- No joint begins where no letter of a connective stands behind a blank. -/
theorem silent_of_isChain {gap rest : List Char}
    (hchain : (gap ++ rest.head?.toList).IsChain Apart) (before : Option Char) :
    Silent Connective.read before gap rest := by
  induction gap generalizing before with
  | nil => exact silent_nil _ _ _
  | cons c gap ih =>
    rw [List.cons_append, List.isChain_cons] at hchain
    refine silent_cons_iff.mpr ⟨read_apart ?_ before, ih hchain.2 (some c)⟩
    intro d hhead
    apply hchain.1
    cases gap with
    | nil => simpa using hhead
    | cons e gap => exact hhead

theorem ofKeyword?_blank {c : Char} (hblank : isBlank c = true) : ofKeyword? c = none := by
  cases hfound : ofKeyword? c with
  | none => rfl
  | some connective =>
    rw [keyword_of_ofKeyword? hfound] at hblank
    exact absurd hblank (by cases connective <;> decide)

/-- No joint begins in blanks behind which no letter of a connective stands. -/
theorem silent_blanks {blanks rest : List Char} (hblanks : Blanks blanks)
    (hrest : ∀ d ∈ rest.head?, ofKeyword? d = none) (before : Option Char) :
    Silent Connective.read before blanks rest := by
  induction blanks generalizing before with
  | nil => exact silent_nil _ _ _
  | cons c blanks ih =>
    obtain ⟨_, hblanks⟩ := List.forall_mem_cons.mp hblanks
    refine silent_cons_iff.mpr ⟨read_apart ?_ before, ih hblanks (some c)⟩
    intro d hhead _
    cases blanks with
    | nil => exact hrest d hhead
    | cons e blanks =>
      obtain rfl := Option.some.inj hhead
      exact ofKeyword?_blank (hblanks e List.mem_cons_self)

/-- No spelling of a comparator begins with the letter of a connective. -/
theorem ofKeyword?_head_keyword {comparator : Comparator} {spelling : String}
    (hspelling : spelling ∈ comparator.keywords) (rest : List Char) :
    ∀ d ∈ (spelling.toList ++ rest).head?, ofKeyword? d = none := by
  have hwords : ∀ comparator : Comparator, ∀ spelling ∈ comparator.keywords,
      spelling.toList.head?.bind ofKeyword? = none := by
    intro comparator
    cases comparator <;> decide
  have hhead := hwords comparator spelling hspelling
  cases hword : spelling.toList with
  | nil => exact absurd hword (Token.Spelt.comparator hspelling).ne_nil
  | cons c word =>
    rw [hword] at hhead
    intro d hmem
    obtain rfl := Option.some.inj hmem
    exact hhead

/-- No joint begins in a spelling of a comparator. -/
theorem silent_keyword {comparator : Comparator} {spelling : String}
    (hspelling : spelling ∈ comparator.keywords) (before : Option Char) (rest : List Char) :
    Silent Connective.read before spelling.toList rest := by
  have hwords : ∀ comparator : Comparator, ∀ spelling ∈ comparator.keywords,
      spelling.toList.IsChain Apart ∧ spelling.toList.getLast?.any isBlank = false := by
    intro comparator
    cases comparator <;> decide
  obtain ⟨hchain, hlast⟩ := hwords comparator spelling hspelling
  apply silent_of_isChain
  refine List.isChain_append.mpr ⟨hchain, ?_, ?_⟩
  · cases rest.head? <;> simp
  · intro c hmem _ _ hblank
    rw [Option.mem_def.mp hmem, Option.any_some, hblank] at hlast
    exact absurd hlast (by decide)

end Aviso.Connective
