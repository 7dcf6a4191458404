import Aviso.Condition.Print
import Aviso.Proofs.Condition.Accounted
import Aviso.Proofs.Condition.Joints

/-!
# Conditions in any layout

Writing a comparison leaves some things open: the spelling of the comparator, the
blanks around it and around the connective, and whether a literal on the right
stands between braces.  A `Layout` settles them.

* `OperandForm.read_text` and `OperandForm.silent_text`: an operand is one token,
  and no joint begins in it.
* `Layout.undivided_iff` and `Layout.madeOf`: so a comparison is three tokens, and
  one segment if no joint begins in its right operand.
* `written_laidOut`: comparisons in any layout are written one after another.
* `parse_laidOut`: reading them gives the comparisons back.
* `parse_print`: printing chooses one of the layouts.
-/

namespace Aviso

open Text

/-! ## Layouts -/

/-- A run of blanks, at least one. -/
structure Spacing where
  text : List Char
  blanks : Blanks text
  ne_nil : text ≠ []

/-- One blank. -/
def Spacing.single : Spacing :=
  ⟨[' '], by decide, by decide⟩

/-- How an operand is written: as a placeholder, or as it is. -/
inductive OperandForm where
  | enclosed
  | bare

/-- What is left open about a comparison when it is written. -/
structure Layout where
  spelling : String
  beforeComparator : Spacing
  behindComparator : Spacing
  right : OperandForm
  beforeConnective : Spacing
  behindConnective : Spacing

/-- An expression that a condition can hold in a placeholder. -/
structure Enclosable (expression : String) : Prop where
  trimmed : Trimmed expression.toList
  line : '\n' ∉ expression.toList
  opening_free : ¬ Placeholder.opening <:+: expression.toList
  closing_free : ¬ Placeholder.closing <:+: expression.toList
  open_ended : expression.toList.getLast? ≠ some '}'

instance (expression : String) : Decidable (Enclosable expression) :=
  decidable_of_iff
    (Trimmed expression.toList ∧ '\n' ∉ expression.toList ∧
      ¬ Placeholder.opening <:+: expression.toList ∧
      ¬ Placeholder.closing <:+: expression.toList ∧ expression.toList.getLast? ≠ some '}')
    ⟨fun ⟨trimmed, line, opening, closing, ends⟩ => ⟨trimmed, line, opening, closing, ends⟩,
      fun h => ⟨h.trimmed, h.line, h.opening_free, h.closing_free, h.open_ended⟩⟩

/-- A literal that a condition can hold without braces: a quotation, a number or a
truth word. -/
structure Bare (text : String) : Prop where
  spelt : Token.Spelt (.literal text) text.toList
  opening_free : ¬ Placeholder.opening <:+: text.toList

namespace OperandForm

def text : OperandForm → String → List Char
  | enclosed, expression => Placeholder.print expression.toList
  | bare, expression => expression.toList

/-- The expression can be written in the form. -/
def Fits : OperandForm → String → Prop
  | enclosed, expression => Enclosable expression
  | bare, expression => Bare expression

/-- The expression is read as it is written in the form, as one token. -/
def Legible : OperandForm → String → Prop
  | enclosed, expression => Enclosable expression
  | bare, expression => Token.Spelt (.literal expression) expression.toList

theorem Fits.legible {form : OperandForm} {expression : String} (hfits : form.Fits expression) :
    form.Legible expression := by
  cases form with
  | enclosed => exact hfits
  | bare => exact Bare.spelt hfits

/-- The token that the operand is. -/
def token : OperandForm → String → Token
  | enclosed, expression => .placeholder expression
  | bare, expression => .literal expression

end OperandForm

namespace Layout

/-- The comparison without its connective. -/
def text (layout : Layout) (comparison : Comparison) : List Char :=
  Placeholder.print comparison.left.toList ++
    (layout.beforeComparator.text ++
      (layout.spelling.toList ++
        (layout.behindComparator.text ++ layout.right.text comparison.right)))

/-- The connective, if there is one, with the blanks around it. -/
def joint (layout : Layout) : Option Connective → List Char
  | none => []
  | some connective =>
    layout.beforeConnective.text ++ connective.keyword :: layout.behindConnective.text

/-- The comparison can be written in the layout. -/
structure Fits (layout : Layout) (comparison : Comparison) : Prop where
  spelling : layout.spelling ∈ comparison.comparator.keywords
  left : Enclosable comparison.left
  right : layout.right.Fits comparison.right

/-- The comparison is read as three tokens in the layout.  A quotation on the right may
hold joints, which divide it. -/
structure Legible (layout : Layout) (comparison : Comparison) : Prop where
  spelling : layout.spelling ∈ comparison.comparator.keywords
  left : Enclosable comparison.left
  right : layout.right.Legible comparison.right

theorem Fits.legible {layout : Layout} {comparison : Comparison}
    (hfits : layout.Fits comparison) : layout.Legible comparison :=
  ⟨hfits.spelling, hfits.left, OperandForm.Fits.legible hfits.right⟩

end Layout

/-- One blank on each side of the comparator, and a literal without braces behind it. -/
def Layout.plain (spelling : String) : Layout :=
  ⟨spelling, .single, .single, .bare, .single, .single⟩

/-- The comparison of a placeholder with what is written on the right, with one blank on
each side of the comparator. -/
def Comparison.plainText (left spelling : String) (right : List Char) : List Char :=
  Placeholder.print left.toList ++ ' ' :: (spelling.toList ++ ' ' :: right)

theorem Layout.text_plain (spelling : String) (comparison : Comparison) :
    (Layout.plain spelling).text comparison =
      Comparison.plainText comparison.left spelling comparison.right.toList := by
  simp [Layout.plain, Layout.text, Comparison.plainText, Spacing.single, OperandForm.text]

/-- Comparisons one after another, each in its layout and behind its connective. -/
def Condition.laidOut (parts : List (Comparison × Layout)) : List Char :=
  parts.flatMap fun part => part.2.joint part.1.connective ++ part.2.text part.1

/-! ## Blanks -/

namespace Spacing

theorem atBlank_append (spacing : Spacing) (behind : List Char) :
    Token.AtBlank (spacing.text ++ behind) := by
  intro c hmem
  have hblanks := spacing.blanks
  have hsome := spacing.ne_nil
  cases htext : spacing.text with
  | nil => exact absurd htext hsome
  | cons d text =>
    rw [htext] at hmem hblanks
    obtain rfl := Option.some.inj hmem
    exact hblanks d List.mem_cons_self

/-- The last blank of a run, and the blanks in front of it. -/
theorem exists_concat (spacing : Spacing) :
    ∃ blanks blank, spacing.text = blanks ++ [blank] ∧ Blanks blanks ∧ isBlank blank = true := by
  obtain ⟨blanks, blank, htext⟩ :=
    (List.eq_nil_or_concat spacing.text).resolve_left spacing.ne_nil
  have hblanks := spacing.blanks
  rw [List.concat_eq_append] at htext
  rw [htext] at hblanks
  exact ⟨blanks, blank, htext, fun c hmem => hblanks c (List.mem_append_left _ hmem),
    hblanks blank (by simp)⟩

/-- No word goes on behind blanks. -/
theorem lastOf_not_word (spacing : Spacing) (before : Option Char) :
    (lastOf before spacing.text).any isWord = false := by
  obtain ⟨blanks, blank, htext, _, hblank⟩ := spacing.exists_concat
  rw [htext, lastOf_append]
  exact Token.isWord_of_isBlank hblank

end Spacing

/-! ## Operands -/

namespace OperandForm

variable {form : OperandForm} {expression : String}

/-- An operand between blanks is one token. -/
theorem read_text (hlegible : form.Legible expression) {before : Option Char} {behind : List Char}
    (hbefore : before.any isWord = false) (hblank : Token.AtBlank behind) :
    Token.read before (form.text expression ++ behind) =
      some (form.token expression, behind) := by
  cases form with
  | enclosed =>
    have hslot :=
      (Slot.mk expression.toList hlegible.trimmed hlegible.closing_free
        hlegible.open_ended).nearest
    have hread := @Token.read_placeholder [] expression.toList [] blanks_nil blanks_nil
      hlegible.trimmed hlegible.line
    rw [List.append_nil, List.nil_append, String.ofList_toList] at hread
    exact hread hslot before behind
  | bare =>
    have hread := @Token.read_literal _ _ behind before hlegible hbefore hblank
    rw [String.ofList_toList] at hread
    exact hread

/-- No joint begins in an operand. -/
theorem silent_text (hfits : form.Fits expression) (before : Option Char) (rest : List Char) :
    Silent Connective.read before (form.text expression) rest := by
  cases form with
  | enclosed => exact Connective.silent_print hfits.opening_free before rest
  | bare => exact Connective.silent_literal hfits.spelt hfits.opening_free before rest

theorem operand?_token (form : OperandForm) (expression : String) :
    (form.token expression).operand? = some expression := by
  cases form <;> rfl

/-- An operand begins neither with a blank nor with the letter of a connective. -/
theorem exists_cons_text (hlegible : form.Legible expression) :
    ∃ c rest, form.text expression = c :: rest ∧ Connective.ofKeyword? c = none := by
  cases form with
  | enclosed => exact ⟨'{', _, rfl, by decide⟩
  | bare =>
    obtain ⟨c, rest, htext, hhead⟩ := Token.exists_cons_literal hlegible
    have hletters : c ≠ 'Y' ∧ c ≠ 'O' :=
      ⟨Token.ne_of_literal hhead (by decide), Token.ne_of_literal hhead (by decide)⟩
    refine ⟨c, rest, htext, ?_⟩
    simp [Connective.ofKeyword?, Connective.keyword, hletters.1.symm, hletters.2.symm]

theorem text_ne_nil (hlegible : form.Legible expression) : form.text expression ≠ [] := by
  obtain ⟨c, rest, htext, _⟩ := exists_cons_text hlegible
  rw [htext]
  exact List.cons_ne_nil c rest

/-- An operand does not end with a blank. -/
theorem startsBlank_reverse_text (hlegible : form.Legible expression) :
    startsBlank (form.text expression).reverse = false := by
  cases form with
  | enclosed =>
    rw [text, Placeholder.print, List.reverse_append]
    rfl
  | bare => exact (Token.trimmed_literal hlegible).2

end OperandForm

/-! ## One comparison -/

namespace Layout

variable {layout : Layout} {comparison : Comparison}

/-- The joints in a comparison, and in blanks behind it, are those in its right
operand. -/
theorem undivided_iff (hlegible : layout.Legible comparison) {blanks behind : List Char}
    (hblanks : Blanks blanks) (hbehind : ∀ d ∈ behind.head?, Connective.ofKeyword? d = none) :
    Undivided (layout.text comparison ++ blanks) behind ↔
      Undivided (layout.right.text comparison.right) (blanks ++ behind) := by
  have hoperand : ∀ rest, ∀ d ∈ (layout.right.text comparison.right ++ rest).head?,
      Connective.ofKeyword? d = none := by
    obtain ⟨c, text, htext, hletter⟩ := OperandForm.exists_cons_text hlegible.right
    intro rest d hmem
    rw [htext] at hmem
    obtain rfl := Option.some.inj hmem
    exact hletter
  have hleft := Connective.silent_print hlegible.left.opening_free none
  have hspace (rest : List Char) := Connective.silent_blanks layout.beforeComparator.blanks
    (Connective.ofKeyword?_head_keyword hlegible.spelling rest) none
  have hword := Connective.silent_keyword hlegible.spelling none
  have hspace' (rest : List Char) :=
    Connective.silent_blanks layout.behindComparator.blanks (hoperand rest) none
  have hend := Connective.silent_blanks hblanks hbehind none
  simp only [← undivided_iff_silent] at hleft hspace hword hspace' hend
  simp only [text, List.append_assoc, undivided_append_iff]
  exact ⟨fun hparts => hparts.2.2.2.2.1,
    fun hright => ⟨hleft _, hspace _, hword _, hspace' _, hright, hend⟩⟩

/-- No joint begins in a comparison, nor in blanks behind it. -/
theorem undivided (hfits : layout.Fits comparison) {blanks behind : List Char}
    (hblanks : Blanks blanks) (hbehind : ∀ d ∈ behind.head?, Connective.ofKeyword? d = none) :
    Undivided (layout.text comparison ++ blanks) behind := by
  rw [undivided_iff hfits.legible hblanks hbehind, undivided_iff_silent none]
  exact OperandForm.silent_text hfits.right _ _

/-- A comparison is three tokens with blanks between each and the next. -/
theorem divided_text (hlegible : layout.Legible comparison) {blanks : List Char}
    (hblanks : Blanks blanks) :
    Divided Token.read none (layout.text comparison ++ blanks)
      [⟨[], Placeholder.print comparison.left.toList, .placeholder comparison.left⟩,
        ⟨layout.beforeComparator.text, layout.spelling.toList, .comparator comparison.comparator⟩,
        ⟨layout.behindComparator.text, layout.right.text comparison.right,
          layout.right.token comparison.right⟩]
      blanks := by
  have hleft : OperandForm.enclosed.Legible comparison.left := hlegible.left
  have hword := (Token.Spelt.comparator hlegible.spelling).ne_nil
  have hblank : Token.AtBlank blanks := fun c hmem => hblanks c (List.mem_of_mem_head? hmem)
  have htext : layout.text comparison ++ blanks =
      [] ++ (Placeholder.print comparison.left.toList ++ (layout.beforeComparator.text ++
        (layout.spelling.toList ++ (layout.behindComparator.text ++
          (layout.right.text comparison.right ++ blanks))))) := by
    simp [text]
  have hspace (spacing : Spacing) (before : Option Char) (rest : List Char) :
      Silent Token.read before spacing.text rest :=
    Token.silent_blanks spacing.blanks before rest
  rw [htext]
  apply Divided.found (OperandForm.text_ne_nil hleft) (silent_nil _ _ _)
    (OperandForm.read_text hleft rfl (layout.beforeComparator.atBlank_append _))
  apply Divided.found hword (hspace _ _ _) (Token.read_comparator hlegible.spelling _ _)
  apply Divided.found (OperandForm.text_ne_nil hlegible.right) (hspace _ _ _)
    (OperandForm.read_text hlegible.right (layout.behindComparator.lastOf_not_word _) hblank)
  exact .last (Token.silent_blanks hblanks _ _)

/-- The tokens of a comparison are its operands and its comparator. -/
theorem madeOf (hlegible : layout.Legible comparison) {blanks : List Char} (hblanks : Blanks blanks) :
    comparison.MadeOf (finds Token.read (layout.text comparison ++ blanks)) := by
  rw [(divided_text hlegible hblanks).finds_eq]
  exact ⟨_, _, rfl, rfl, layout.right.operand?_token comparison.right⟩

theorem opening_begins (layout : Layout) (comparison : Comparison) (behind : List Char) :
    Placeholder.opening <+: layout.text comparison ++ behind := by
  rw [text, Placeholder.print]
  simp only [List.append_assoc]
  exact List.prefix_append _ _

end Layout

/-! ## Comparisons one after another -/

namespace Condition

/-- The induction is on the comparisons behind the first one, for every first
comparison and every connective in front of it. -/
theorem written_laidOut {first : Comparison × Layout} {others : List (Comparison × Layout)}
    (hothers : ∀ part ∈ others, part.1.connective ≠ none)
    (hfits : ∀ part ∈ first :: others, part.2.Fits part.1) :
    Written ReadClause first.1.connective (first.2.text first.1 ++ laidOut others)
      (first.1 :: others.map Prod.fst) := by
  have hfirst := hfits first List.mem_cons_self
  induction others generalizing first with
  | nil =>
    have hundivided := @Layout.undivided _ _ hfirst [] [] blanks_nil (by simp)
    exact .last (readClause_of_undivided hundivided) (Layout.madeOf hfirst.legible blanks_nil) rfl
  | cons next others ih =>
    obtain ⟨hnext, hothers⟩ := List.forall_mem_cons.mp hothers
    obtain ⟨connective, hconnective⟩ := Option.ne_none_iff_exists'.mp hnext
    have hrest : ∀ part ∈ next :: others, part.2.Fits part.1 :=
      fun part hmem => hfits part (List.mem_cons_of_mem _ hmem)
    have hwritten := ih hothers hrest (hrest next List.mem_cons_self)
    -- The last blank in front of the connective is part of the joint, and the
    -- others end the segment.
    obtain ⟨blanks, blank, htext, hblanks, hblank⟩ := next.2.beforeConnective.exists_concat
    have hsplit : first.2.text first.1 ++ laidOut (next :: others) =
        first.2.text first.1 ++ blanks ++
          (blank :: connective.keyword :: next.2.behindConnective.text ++
            (next.2.text next.1 ++ laidOut others)) := by
      simp [laidOut, Layout.joint, hconnective, htext]
    have hjoint : Joint connective
        (blank :: connective.keyword :: next.2.behindConnective.text) :=
      ⟨blank, _, rfl, hblank, next.2.behindConnective.blanks, next.2.behindConnective.ne_nil⟩
    have hhead : ∀ d ∈ (blank :: connective.keyword :: next.2.behindConnective.text ++
        (next.2.text next.1 ++ laidOut others)).head?, Connective.ofKeyword? d = none := by
      intro d hmem
      obtain rfl := Option.some.inj hmem
      exact Connective.ofKeyword?_blank hblank
    rw [hsplit]
    rw [hconnective] at hwritten
    exact .joint (readClause_of_undivided (Layout.undivided hfirst hblanks hhead))
      (Layout.madeOf hfirst.legible hblanks) rfl hjoint (next.2.opening_begins _ _) hwritten

theorem laidOut_cons (part : Comparison × Layout) (parts : List (Comparison × Layout)) :
    laidOut (part :: parts) =
      part.2.joint part.1.connective ++ (part.2.text part.1 ++ laidOut parts) := by
  rw [laidOut, List.flatMap_cons, List.append_assoc, laidOut]

theorem exists_cons_laidOut (first : Comparison × Layout) (behind : List Char) :
    ∃ inside, first.2.text first.1 ++ behind = '{' :: inside :=
  ⟨_, rfl⟩

theorem startsBlank_reverse_laidOut {first : Comparison × Layout}
    {others : List (Comparison × Layout)} (hlegible : ∀ part ∈ first :: others, part.2.Legible part.1) :
    startsBlank (first.2.text first.1 ++ laidOut others).reverse = false := by
  induction others generalizing first with
  | nil =>
    have hright := (hlegible first List.mem_cons_self).right
    rw [laidOut, List.flatMap_nil, List.append_nil, Layout.text, ← List.append_assoc,
      ← List.append_assoc, ← List.append_assoc,
      startsBlank_reverse_append (OperandForm.text_ne_nil hright)]
    exact OperandForm.startsBlank_reverse_text hright
  | cons next others ih =>
    obtain ⟨inside, hinside⟩ := exists_cons_laidOut next (laidOut others)
    have hsome : next.2.text next.1 ++ laidOut others ≠ [] := by simp [hinside]
    rw [laidOut_cons, ← List.append_assoc, startsBlank_reverse_append hsome]
    exact ih fun part hmem => hlegible part (List.mem_cons_of_mem _ hmem)

theorem trimmed_laidOut {first : Comparison × Layout} {others : List (Comparison × Layout)}
    (hlegible : ∀ part ∈ first :: others, part.2.Legible part.1) :
    Trimmed (first.2.text first.1 ++ laidOut others) := by
  obtain ⟨inside, hinside⟩ := exists_cons_laidOut first (laidOut others)
  refine ⟨?_, startsBlank_reverse_laidOut hlegible⟩
  rw [hinside]
  rfl

/-- Neither blanks nor the word of a tag are removed from comparisons that are laid
out. -/
theorem withoutTag_trim_laidOut {first : Comparison × Layout}
    {others : List (Comparison × Layout)} (hlegible : ∀ part ∈ first :: others, part.2.Legible part.1) :
    withoutTag (trim (first.2.text first.1 ++ laidOut others)) =
      first.2.text first.1 ++ laidOut others := by
  obtain ⟨inside, hinside⟩ := exists_cons_laidOut first (laidOut others)
  rw [trim_eq_self (trimmed_laidOut hlegible), hinside]
  rfl

theorem parse_first_laidOut {first : Comparison × Layout} {others : List (Comparison × Layout)}
    (hfirst : first.1.connective = none) (hothers : ∀ part ∈ others, part.1.connective ≠ none)
    (hfits : ∀ part ∈ first :: others, part.2.Fits part.1) :
    parse (String.ofList (first.2.text first.1 ++ laidOut others)) =
      .ok (first.1 :: others.map Prod.fst) := by
  have hwritten := written_laidOut hothers hfits
  apply parse_of_written
  rw [String.toList_ofList, withoutTag_trim_laidOut fun part hmem => (hfits part hmem).legible,
    ← hfirst]
  exact hwritten

/-- The comparison of a placeholder with a literal is read as it is written. -/
theorem parse_plainText {left spelling right : String} {comparator : Comparator}
    (hleft : Enclosable left) (hspelling : spelling ∈ comparator.keywords) (hright : Bare right) :
    parse (String.ofList (Comparison.plainText left spelling right.toList)) =
      .ok [⟨left, comparator, right, none⟩] := by
  have hfits : (Layout.plain spelling).Fits ⟨left, comparator, right, none⟩ :=
    ⟨hspelling, hleft, hright⟩
  have hparse := @parse_first_laidOut (⟨left, comparator, right, none⟩, Layout.plain spelling) []
    rfl (by simp) (List.forall_mem_singleton.mpr hfits)
  rw [laidOut, List.flatMap_nil, List.append_nil, Layout.text_plain] at hparse
  exact hparse

/-- Reading comparisons gives them back, in whichever layout each of them is
written. -/
theorem parse_laidOut {first : Comparison × Layout} {others : List (Comparison × Layout)}
    (hfirst : first.1.connective = none) (hothers : ∀ part ∈ others, part.1.connective ≠ none)
    (hfits : ∀ part ∈ first :: others, part.2.Fits part.1) :
    parse (String.ofList (laidOut (first :: others))) = .ok (first.1 :: others.map Prod.fst) := by
  rw [laidOut_cons, hfirst, Layout.joint, List.nil_append]
  exact parse_first_laidOut hfirst hothers hfits

/-- Operands may hold keywords, quotes and the letters of connectives, and blanks may
be line breaks. -/
theorem parse_laidOut_two :
    parse "{{ES IGUAL QUE Y}} NO ES IGUAL QUE 'O \"Y'\n O {{}} CAMBIO A -1.5" =
      .ok [⟨"ES IGUAL QUE Y", .notEqual, "'O \"Y'", none⟩,
        ⟨"", .changedTo, "-1.5", some .or⟩] := by
  have hquotation : Bare "'O \"Y'" :=
    ⟨@Token.Spelt.quotation '\'' "O \"Y".toList (.inl rfl) (by decide), by decide⟩
  have hnumber : Bare "-1.5" :=
    ⟨@Token.Spelt.number ['-'] ['1'] ['.', '5'] (.inr rfl)
      ⟨by decide, List.all_eq_true.mp (by decide)⟩
      (.inr ⟨['5'], rfl, by decide, List.all_eq_true.mp (by decide)⟩), by decide⟩
  have hread := @parse_laidOut
    (⟨"ES IGUAL QUE Y", .notEqual, "'O \"Y'", none⟩,
      ⟨"NO ES IGUAL QUE", .single, .single, .bare, .single, .single⟩)
    [(⟨"", .changedTo, "-1.5", some .or⟩,
      ⟨"CAMBIO A", .single, .single, .bare, ⟨"\n ".toList, by decide, by decide⟩, .single⟩)]
    rfl (by decide) (by
      simp only [List.forall_mem_cons]
      exact ⟨⟨by decide, by decide, hquotation⟩, ⟨by decide, by decide, hnumber⟩, by simp⟩)
  convert hread using 2
  · decide
  · rfl

/-! ## Printing -/

/-- The layout of a comparison that is printed. -/
def printed (comparison : Comparison) : Comparison × Layout :=
  (comparison, ⟨comparison.comparator.keyword, .single, .single, .enclosed, .single, .single⟩)

theorem printed_text (comparison : Comparison) :
    (printed comparison).2.text (printed comparison).1 = comparison.print := by
  simp [printed, Layout.text, Comparison.print, Spacing.single, OperandForm.text]

theorem laidOut_printed {comparisons : List Comparison}
    (hconnectives : ∀ comparison ∈ comparisons, comparison.connective ≠ none) :
    laidOut (comparisons.map printed) = comparisons.flatMap printNext := by
  rw [laidOut, List.flatMap_map]
  apply List.flatMap_congr
  intro comparison hmem
  obtain ⟨connective, hconnective⟩ := Option.ne_none_iff_exists'.mp (hconnectives comparison hmem)
  rw [printed_text, printNext]
  simp [printed, hconnective, Layout.joint, Spacing.single]

/-- Reading what is printed gives the comparisons back. -/
theorem parse_print {first : Comparison} {others : List Comparison}
    (hfirst : first.connective = none) (hothers : ∀ next ∈ others, next.connective ≠ none)
    (hoperands : ∀ comparison ∈ first :: others,
      Enclosable comparison.left ∧ Enclosable comparison.right) :
    parse (print (first :: others)) = .ok (first :: others) := by
  have hfits : ∀ part ∈ printed first :: others.map printed, part.2.Fits part.1 := by
    rw [← List.map_cons, List.forall_mem_map]
    intro comparison hmem
    obtain ⟨hleft, hright⟩ := hoperands comparison hmem
    exact ⟨List.mem_cons_self, hleft, hright⟩
  have hparse := @parse_first_laidOut (printed first) (others.map printed) hfirst
    (List.forall_mem_map.mpr hothers) hfits
  rw [laidOut_printed hothers, List.map_map] at hparse
  rw [print, ← printed_text]
  simpa [Function.comp_def, printed] using hparse

end Condition

end Aviso
