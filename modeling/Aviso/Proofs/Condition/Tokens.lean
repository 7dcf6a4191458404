import Mathlib.Data.List.Infix
import Mathlib.Data.List.TakeWhile
import Aviso.Condition.Token
import Aviso.Proofs.Placeholder
import Aviso.Proofs.Text.Blank
import Aviso.Proofs.Text.Cut
import Aviso.Proofs.Text.Scan

/-!
# How the tokens of a condition are written

`Spelt` says which texts write a token, and `Stands` where such a text is a token
of a condition: a literal has to be cut off from the words around it.  Both are a
grammar, and do not speak of how tokens are looked for.

* `exists_stands_of_read`: what the token reader takes stands there as the token
  that it returns.
* `isSome_read_of_stands`: where a token stands the reader takes one.
* `silent_iff_free`: so the scan passes over exactly the texts in which no token
  stands.
* `read_placeholder` and `read_comparator`: placeholders and comparators are read
  as they are written.
* `silent_blanks`: no token begins with a blank.
-/

namespace Aviso.Token

open Text

/-! ## The texts of a token -/

/-- The text writes the token. -/
inductive Spelt : Token → List Char → Prop where
  /-- An expression on one line between braces, with blanks around it.  The
  closing braces are the nearest ones. -/
  | placeholder {left expression right : List Char} (hleft : Blanks left) (hright : Blanks right)
      (htrimmed : Trimmed expression) (hline : '\n' ∉ expression)
      (hnearest : ¬ Placeholder.closing <:+: left ++ (expression ++ right) ++ ['}']) :
      Spelt (.placeholder (String.ofList expression))
        (Placeholder.print (left ++ (expression ++ right)))
  /-- A text between quotes of one kind, which does not hold that quote. -/
  | quotation {quote : Char} {inside : List Char} (hquote : quote = '\'' ∨ quote = '"')
      (hfree : quote ∉ inside) :
      Spelt (.literal (String.ofList (quote :: inside ++ [quote]))) (quote :: inside ++ [quote])
  /-- Digits, with a sign or a fraction or without them. -/
  | number {sign whole fraction : List Char} (hsign : sign = [] ∨ sign = ['-'])
      (hwhole : whole ≠ [] ∧ ∀ c ∈ whole, isDigit c = true)
      (hfraction : fraction = [] ∨ ∃ digits, fraction = '.' :: digits ∧
        digits ≠ [] ∧ ∀ c ∈ digits, isDigit c = true) :
      Spelt (.literal (String.ofList (sign ++ (whole ++ fraction)))) (sign ++ (whole ++ fraction))
  | truth {word : String} (hword : word = trueWord ∨ word = falseWord) :
      Spelt (.literal word) word.toList
  | comparator {comparator : Comparator} {spelling : String}
      (hspelling : spelling ∈ comparator.keywords) :
      Spelt (.comparator comparator) spelling.toList

/-- The text is cut off from the words in front of it and behind it. -/
def CutOff (before : Option Char) (text behind : List Char) : Prop :=
  (before.any isWord && startsWord text) = false ∧
    (startsWord text.reverse && startsWord behind) = false

/-- The text `taken` is the token, with `before` in front of it and `behind`
behind it.  A literal is cut off from the words around it. -/
def Stands (token : Token) (before : Option Char) (taken behind : List Char) : Prop :=
  Spelt token taken ∧ ∀ written, token = .literal written → CutOff before taken behind

/-- No token stands in the gap, when `before` stands in front of it and `rest`
behind it. -/
def Free (before : Option Char) (gap rest : List Char) : Prop :=
  ∀ front back taken behind, gap = front ++ back → back ≠ [] → back ++ rest = taken ++ behind →
    ∀ token : Token, ¬ token.Stands (lastOf before front) taken behind

/-- No token is written by the empty text. -/
theorem Spelt.ne_nil {token : Token} {text : List Char} (hspelt : Spelt token text) :
    text ≠ [] := by
  cases hspelt with
  | placeholder => simp [Placeholder.print, Placeholder.opening]
  | quotation => simp
  | number _ hwhole => simp [hwhole.1]
  | truth hword => rcases hword with rfl | rfl <;> decide
  | @comparator comparator spelling hspelling =>
    revert spelling
    cases comparator <;> decide

/-! ## What the reader takes -/

theorem stands_of_readPlaceholder? {before : Option Char} {text expression behind : List Char}
    (hread : readPlaceholder? text = some (expression, behind)) :
    ∃ taken, text = taken ++ behind ∧
      Stands (.placeholder (String.ofList expression)) before taken behind := by
  simp only [readPlaceholder?, Placeholder.read?, Option.bind_eq_bind, Option.bind_eq_some_iff,
    Prod.exists, Option.pure_def, Option.some.injEq, Prod.mk.injEq] at hread
  rcases hread with ⟨_, _, ⟨rest, hopen, inside, _, hcut, rfl, rfl⟩, hline⟩
  split at hline
  · exact absurd hline (by simp)
  · rename_i hfree
    obtain ⟨rfl, rfl⟩ := Prod.mk.inj (Option.some.inj hline)
    obtain ⟨left, right, hleft, hright, hinside⟩ := exists_trim inside
    have hnearest := not_infix_append_of_cut? (by decide) hcut
    rw [hinside] at hnearest
    refine ⟨Placeholder.print (left ++ (trim inside ++ right)), ?_,
      .placeholder hleft hright (trimmed_trim inside) (by simpa using hfree) hnearest, by simp⟩
    rw [← hinside, after?_eq_some_iff.mp hopen, append_of_cut? hcut, Placeholder.print]
    simp

theorem stands_of_readQuotation? {before : Option Char} {text written behind : List Char}
    (hread : readQuotation? text = some (written, behind)) :
    text = written ++ behind ∧
      Stands (.literal (String.ofList written)) before written behind := by
  cases text with
  | nil => exact absurd hread (by simp [readQuotation?])
  | cons quote text =>
    rw [readQuotation?] at hread
    split at hread
    · rename_i hquote
      obtain ⟨⟨inside, rest⟩, hcut, hwritten⟩ := Option.map_eq_some_iff.mp hread
      obtain ⟨rfl, rfl⟩ := Prod.mk.inj hwritten
      have hquotes : quote = '\'' ∨ quote = '"' := by simpa using hquote
      have hword : isWord quote = false := by
        rcases hquotes with rfl | rfl <;> decide
      have hfree := not_infix_of_cut? (by simp) hcut
      rw [List.singleton_infix_iff] at hfree
      refine ⟨?_, .quotation hquotes hfree, fun _ _ => ⟨?_, ?_⟩⟩
      · rw [append_of_cut? hcut]
        simp
      · simp [startsWord, hword]
      · simp [startsWord, hword]
    · exact absurd hread (by simp)

/-- A point, and digits behind it. -/
theorem split_of_readFraction? {text places behind : List Char}
    (hread : readFraction? text = some (places, behind)) :
    text = '.' :: (places ++ behind) ∧ places ≠ [] ∧ ∀ c ∈ places, isDigit c = true := by
  unfold readFraction? at hread
  split at hread
  · rename_i digits
    split at hread
    · exact absurd hread (by simp)
    · rename_i hsome
      obtain ⟨rfl, rfl⟩ := Prod.mk.inj (Option.some.inj hread)
      refine ⟨?_, by simpa using hsome, fun c hmem => List.mem_takeWhile_imp hmem⟩
      rw [List.takeWhile_append_dropWhile]
  · exact absurd hread (by simp)

/-- The digits of a number, with its fraction or without it, in front of a text
that begins with no word. -/
theorem split_of_readUnsigned? {text written behind : List Char}
    (hread : readUnsigned? text = some (written, behind)) :
    (text = written ++ behind ∧ startsWord behind = false) ∧
      ∃ whole fraction, written = whole ++ fraction ∧
        (whole ≠ [] ∧ ∀ c ∈ whole, isDigit c = true) ∧
        (fraction = [] ∨ ∃ places, fraction = '.' :: places ∧
          places ≠ [] ∧ ∀ c ∈ places, isDigit c = true) := by
  have hdigits : ∀ c ∈ text.takeWhile isDigit, isDigit c = true :=
    fun c hmem => List.mem_takeWhile_imp hmem
  have hsplit : text.takeWhile isDigit ++ text.dropWhile isDigit = text :=
    List.takeWhile_append_dropWhile
  simp only [readUnsigned?, List.isEmpty_iff] at hread
  split at hread
  · exact absurd hread (by simp)
  · rename_i hsome
    split at hread
    · split at hread
      · exact absurd hread (by simp)
      · rename_i hword
        obtain ⟨rfl, rfl⟩ := Prod.mk.inj (Option.some.inj hread)
        exact ⟨⟨hsplit.symm, by simpa using hword⟩, _, [], by simp, ⟨hsome, hdigits⟩, .inl rfl⟩
    · rename_i places further hfraction
      obtain ⟨hbehind, hplaces⟩ := split_of_readFraction? hfraction
      split at hread
      · obtain ⟨rfl, rfl⟩ := Prod.mk.inj (Option.some.inj hread)
        have hpoint : startsWord (text.dropWhile isDigit) = false := by
          rw [hbehind, startsWord]
          decide
        exact ⟨⟨hsplit.symm, hpoint⟩, _, [], by simp, ⟨hsome, hdigits⟩, .inl rfl⟩
      · rename_i hword
        obtain ⟨rfl, rfl⟩ := Prod.mk.inj (Option.some.inj hread)
        refine ⟨⟨?_, by simpa using hword⟩, _, _, rfl, ⟨hsome, hdigits⟩,
          .inr ⟨places, rfl, hplaces⟩⟩
        rw [List.append_assoc, List.cons_append, ← hbehind, hsplit]

theorem stands_of_readNumber? {before : Option Char} {text written behind : List Char}
    (hread : readNumber? before text = some (written, behind)) :
    text = written ++ behind ∧
      Stands (.literal (String.ofList written)) before written behind := by
  unfold readNumber? at hread
  split at hread
  · obtain ⟨⟨digits, rest⟩, hdigits, hwritten⟩ := Option.map_eq_some_iff.mp hread
    obtain ⟨rfl, rfl⟩ := Prod.mk.inj hwritten
    obtain ⟨⟨rfl, hword⟩, whole, fraction, rfl, hwhole, hfraction⟩ :=
      split_of_readUnsigned? hdigits
    have hminus : startsWord ('-' :: (whole ++ fraction)) = false := by
      rw [startsWord]
      decide
    refine ⟨rfl, .number (.inr rfl) hwhole hfraction, fun _ _ => ⟨?_, ?_⟩⟩
    · rw [hminus, Bool.and_false]
    · rw [hword, Bool.and_false]
  · split at hread
    · exact absurd hread (by simp)
    · rename_i hbefore
      obtain ⟨⟨rfl, hword⟩, whole, fraction, rfl, hwhole, hfraction⟩ :=
        split_of_readUnsigned? hread
      refine ⟨rfl, .number (.inl rfl) hwhole hfraction, fun _ _ => ⟨?_, ?_⟩⟩
      · rw [(Bool.not_eq_true _).mp hbefore, Bool.false_and]
      · rw [hword, Bool.and_false]

theorem stands_of_readTruth? {before : Option Char} {text written behind : List Char}
    (hread : readTruth? before text = some (written, behind)) :
    text = written ++ behind ∧
      Stands (.literal (String.ofList written)) before written behind := by
  simp only [readTruth?, Option.bind_eq_bind, Option.bind_eq_some_iff, Prod.exists] at hread
  rcases hread with ⟨word, rest, hfound, hread⟩
  split at hread
  · exact absurd hread (by simp)
  · rename_i hcut
    obtain ⟨rfl, rfl⟩ := Prod.mk.inj (Option.some.inj hread)
    obtain ⟨marker, hmem, rfl⟩ := mem_of_afterAny? hfound
    simp only [List.map_cons, List.map_nil, List.mem_cons, Prod.mk.injEq, List.not_mem_nil,
      or_false] at hmem
    rw [Bool.or_eq_true, not_or, Bool.not_eq_true, Bool.not_eq_true] at hcut
    have hcutOff : CutOff before word rest := by
      rw [CutOff, hcut.1, hcut.2, Bool.false_and, Bool.and_false]
      exact ⟨rfl, rfl⟩
    rcases hmem with ⟨rfl, rfl⟩ | ⟨rfl, rfl⟩
    · rw [String.ofList_toList]
      exact ⟨rfl, .truth (.inl rfl), fun _ _ => hcutOff⟩
    · rw [String.ofList_toList]
      exact ⟨rfl, .truth (.inr rfl), fun _ _ => hcutOff⟩

theorem stands_of_readLiteral? {before : Option Char} {text written behind : List Char}
    (hread : readLiteral? before text = some (written, behind)) :
    text = written ++ behind ∧
      Stands (.literal (String.ofList written)) before written behind := by
  rw [readLiteral?] at hread
  cases hquotation : readQuotation? text with
  | some found =>
    rw [hquotation] at hread
    exact stands_of_readQuotation? (hquotation.trans hread)
  | none =>
    rw [hquotation] at hread
    cases hnumber : readNumber? before text with
    | some found =>
      rw [hnumber] at hread
      exact stands_of_readNumber? (hnumber.trans hread)
    | none =>
      rw [hnumber] at hread
      exact stands_of_readTruth? hread

theorem stands_of_byKeyword {before : Option Char} {word behind : List Char} {found : Comparator}
    (hmem : (word, found) ∈ Comparator.byKeyword) :
    Stands (.comparator found) before word behind := by
  obtain ⟨comparator, _, hmem⟩ := List.mem_flatMap.mp hmem
  obtain ⟨spelling, hspelling, hword⟩ := List.mem_map.mp hmem
  obtain ⟨rfl, rfl⟩ := Prod.mk.inj hword
  exact ⟨.comparator hspelling, by simp⟩

/-- What the token reader takes stands there as the token that it returns. -/
theorem exists_stands_of_read {before : Option Char} {text behind : List Char} {token : Token}
    (hread : read before text = some (token, behind)) :
    ∃ taken, text = taken ++ behind ∧ Stands token before taken behind := by
  rw [read] at hread
  cases hplaceholder : readPlaceholder? text with
  | some found =>
    rw [hplaceholder] at hread
    obtain ⟨rfl, rfl⟩ := Prod.mk.inj (Option.some.inj hread)
    exact stands_of_readPlaceholder? hplaceholder
  | none =>
    rw [hplaceholder] at hread
    cases hliteral : readLiteral? before text with
    | some found =>
      rw [hliteral] at hread
      obtain ⟨rfl, rfl⟩ := Prod.mk.inj (Option.some.inj hread)
      exact ⟨_, stands_of_readLiteral? hliteral⟩
    | none =>
      rw [hliteral] at hread
      obtain ⟨⟨found, rest⟩, hfound, hcomparator⟩ := Option.map_eq_some_iff.mp hread
      obtain ⟨rfl, rfl⟩ := Prod.mk.inj hcomparator
      obtain ⟨word, hmem, htext⟩ := mem_of_afterAny? hfound
      exact ⟨word, htext, stands_of_byKeyword hmem⟩

theorem takes_read : Takes read := by
  intro before c text token behind hread
  obtain ⟨taken, htext, hspelt, _⟩ := exists_stands_of_read hread
  cases taken with
  | nil => exact absurd rfl hspelt.ne_nil
  | cons d taken => exact ⟨taken, (List.cons.inj htext).2⟩

/-! ## Reading what is written -/

/-- A character with which no placeholder, quotation or number begins. -/
def isPlain (c : Char) : Bool :=
  c != '{' && c != '\'' && c != '"' && c != '-' && !isDigit c

theorem readNumber?_of_isPlain {c : Char} (hplain : isPlain c = true) (before : Option Char)
    (text : List Char) : readNumber? before (c :: text) = none := by
  simp only [isPlain, Bool.and_eq_true, bne_iff_ne, Bool.not_eq_true'] at hplain
  rcases hplain with ⟨⟨_, hminus⟩, hdigit⟩
  have hunsigned : readUnsigned? (c :: text) = none := by simp [readUnsigned?, hdigit]
  unfold readNumber?
  split
  · rename_i heq
    exact absurd (List.cons.inj heq).1 hminus
  · rw [hunsigned, ite_self]

/-- Where no literal and no placeholder can begin only a comparator is read. -/
theorem read_of_isPlain {c : Char} {text : List Char} (hplain : isPlain c = true)
    (htrue : ¬ trueWord.toList <+: c :: text) (hfalse : ¬ falseWord.toList <+: c :: text)
    (before : Option Char) :
    read before (c :: text) =
      (afterAny? Comparator.byKeyword (c :: text)).map fun (found, behind) =>
        (comparator found, behind) := by
  have hplaceholder : readPlaceholder? (c :: text) = none := by
    have hbrace : c ≠ '{' := by
      rintro rfl
      exact absurd hplain (by decide)
    rw [readPlaceholder?, Placeholder.read?_of_ne hbrace]
    rfl
  have hquotation : readQuotation? (c :: text) = none := by
    simp only [isPlain, Bool.and_eq_true, bne_iff_ne] at hplain
    simp [readQuotation?, hplain]
  have htruth : readTruth? before (c :: text) = none := by
    have hnone : afterAny? ([trueWord.toList, falseWord.toList].map fun word => (word, word))
        (c :: text) = none := by
      rw [afterAny?_eq_none_iff]
      simp [htrue, hfalse]
    simp only [readTruth?, hnone]
    rfl
  rw [read, readLiteral?, hplaceholder, hquotation, readNumber?_of_isPlain hplain, htruth]
  rfl

/-- A placeholder whose expression is on one line is read as it is written. -/
theorem read_placeholder {left expression right : List Char} (hleft : Blanks left)
    (hright : Blanks right) (htrimmed : Trimmed expression) (hline : '\n' ∉ expression)
    (hnearest : ¬ Placeholder.closing <:+: left ++ (expression ++ right) ++ ['}'])
    (before : Option Char) (behind : List Char) :
    read before (Placeholder.print (left ++ (expression ++ right)) ++ behind) =
      some (placeholder (String.ofList expression), behind) := by
  have hplaceholder :
      readPlaceholder? (Placeholder.print (left ++ (expression ++ right)) ++ behind) =
        some (expression, behind) := by
    rw [readPlaceholder?, Placeholder.read?_print hnearest, trim_between hleft hright htrimmed]
    simp [hline]
  rw [read, hplaceholder]
  rfl

theorem mem_byKeyword {comparator : Comparator} {spelling : String}
    (hspelling : spelling ∈ comparator.keywords) :
    (spelling.toList, comparator) ∈ Comparator.byKeyword := by
  refine List.mem_flatMap.mpr ⟨comparator, ?_, List.mem_map.mpr ⟨spelling, hspelling, rfl⟩⟩
  cases comparator <;> decide

/-- Two words that do not begin each other do not stand in front of one text. -/
theorem not_begins_append {word other : List Char}
    (hapart : ¬ word <+: other ∧ ¬ other <+: word) (text : List Char) :
    ¬ word <+: other ++ text := by
  intro hbegins
  rcases List.prefix_or_prefix_of_prefix hbegins (List.prefix_append other text) with hle | hle
  · exact hapart.1 hle
  · exact hapart.2 hle

/-- Every spelling of a comparator is read as that comparator. -/
theorem read_comparator {comparator : Comparator} {spelling : String}
    (hspelling : spelling ∈ comparator.keywords) (before : Option Char) (behind : List Char) :
    read before (spelling.toList ++ behind) = some (.comparator comparator, behind) := by
  have hmem := mem_byKeyword hspelling
  have hfound := afterAny?_append (by decide) hmem behind
  have hhead : ∀ marker ∈ Comparator.byKeyword, marker.1.head?.any isPlain = true := by
    decide
  have htruth : ∀ marker ∈ Comparator.byKeyword, ∀ word ∈ [trueWord.toList, falseWord.toList],
      ¬ word <+: marker.1 ∧ ¬ marker.1 <+: word := by
    decide
  have htrue := not_begins_append (htruth _ hmem trueWord.toList (by simp)) behind
  have hfalse := not_begins_append (htruth _ hmem falseWord.toList (by simp)) behind
  have hplain := hhead _ hmem
  cases hword : spelling.toList with
  | nil =>
    rw [hword] at hplain
    exact absurd hplain (by simp)
  | cons c word =>
    rw [hword] at hplain htrue hfalse hfound
    rw [List.cons_append] at htrue hfalse hfound ⊢
    rw [read_of_isPlain hplain htrue hfalse, hfound]
    rfl

/-! ## Where tokens stand -/

theorem startsWord_of_digits {digits : List Char}
    (hdigits : digits ≠ [] ∧ ∀ c ∈ digits, isDigit c = true) : startsWord digits = true := by
  cases digits with
  | nil => exact absurd rfl hdigits.1
  | cons c digits => exact isWord_of_isDigit (hdigits.2 c (by simp))

theorem startsWord_append {word : List Char} (hword : startsWord word = true) (text : List Char) :
    startsWord (word ++ text) = true := by
  cases word with
  | nil => exact absurd hword (by decide)
  | cons c word => exact hword

/-- Digits behind which no word goes on, or a fraction follows, begin a number. -/
theorem isSome_readUnsigned? {whole text : List Char}
    (hwhole : whole ≠ [] ∧ ∀ c ∈ whole, isDigit c = true) (hword : startsWord text = false) :
    (readUnsigned? (whole ++ text)).isSome = true := by
  have hhead : text.takeWhile isDigit = [] ∧ text.dropWhile isDigit = text := by
    cases text with
    | nil => exact ⟨rfl, rfl⟩
    | cons c text =>
      have hdigit : isDigit c = false := by
        rw [← Bool.not_eq_true]
        intro hdigit
        rw [startsWord, isWord_of_isDigit hdigit] at hword
        exact absurd hword (by decide)
      simp [hdigit]
  simp only [readUnsigned?, List.takeWhile_append_of_pos hwhole.2,
    List.dropWhile_append_of_pos hwhole.2, hhead, List.append_nil, List.isEmpty_iff, hwhole.1,
    if_false]
  cases readFraction? text with
  | none => simp [hword]
  | some found =>
    obtain ⟨places, further⟩ := found
    by_cases hfurther : startsWord further = true <;> simp [hfurther]

theorem readNumber?_of_digits {whole : List Char}
    (hwhole : whole ≠ [] ∧ ∀ c ∈ whole, isDigit c = true) (before : Option Char)
    (text : List Char) :
    readNumber? before (whole ++ text) =
      if before.any isWord then none else readUnsigned? (whole ++ text) := by
  cases whole with
  | nil => exact absurd rfl hwhole.1
  | cons c whole =>
    have hminus : c ≠ '-' := by
      rintro rfl
      exact absurd (hwhole.2 '-' (by simp)) (by decide)
    rw [List.cons_append, readNumber?]
    rintro _ heq
    exact hminus (List.cons.inj heq).1

theorem isSome_read_of_readLiteral? {before : Option Char} {text : List Char}
    (hliteral : (readLiteral? before text).isSome = true) : (read before text).isSome = true := by
  rw [read]
  simp only [Option.orElse_eq_orElse, Option.orElse_eq_or, Option.isSome_or, Option.isSome_map,
    hliteral, Bool.true_or, Bool.or_true]

theorem isSome_readLiteral? {before : Option Char} {text : List Char}
    (hsome : (readQuotation? text).isSome = true ∨ (readNumber? before text).isSome = true ∨
      (readTruth? before text).isSome = true) : (readLiteral? before text).isSome = true := by
  rw [readLiteral?]
  simpa only [Option.orElse_eq_orElse, Option.orElse_eq_or, Option.isSome_or,
    Bool.or_eq_true] using hsome

/-- A quotation is read as it is written. -/
theorem readQuotation?_append {quote : Char} {inside : List Char}
    (hquote : quote = '\'' ∨ quote = '"') (hfree : quote ∉ inside) (behind : List Char) :
    readQuotation? (quote :: inside ++ [quote] ++ behind) =
      some (quote :: inside ++ [quote], behind) := by
  have hfound : cut? [quote] (inside ++ ([quote] ++ behind)) = some (inside, behind) := by
    apply cut?_append (by simp)
    simpa [List.singleton_infix_iff] using hfree
  rw [List.append_assoc, List.cons_append, readQuotation?, hfound]
  simp [hquote]

/-- A truth word that is cut off from the words around it is read as it is written. -/
theorem readTruth?_append {word : String} (hword : word = trueWord ∨ word = falseWord)
    {before : Option Char} (hbefore : before.any isWord = false) {behind : List Char}
    (hbehind : startsWord behind = false) :
    readTruth? before (word.toList ++ behind) = some (word.toList, behind) := by
  have hfound : afterAny? ([trueWord.toList, falseWord.toList].map fun word => (word, word))
      (word.toList ++ behind) = some (word.toList, behind) := by
    apply afterAny?_append (by decide)
    rcases hword with rfl | rfl <;> simp
  rw [readTruth?]
  simp only [hfound, Option.bind_eq_bind, Option.bind_some, hbefore, hbehind]
  rfl

/-- Where a token stands the reader takes one. -/
theorem isSome_read_of_stands {token : Token} {before : Option Char} {taken behind : List Char}
    (hstands : Stands token before taken behind) :
    (read before (taken ++ behind)).isSome = true := by
  rcases hstands with ⟨hspelt, hcut⟩
  cases hspelt with
  | placeholder hleft hright htrimmed hline hnearest =>
    rw [read_placeholder hleft hright htrimmed hline hnearest]
    rfl
  | @quotation quote inside hquote hfree =>
    apply isSome_read_of_readLiteral?
    apply isSome_readLiteral?
    left
    rw [readQuotation?_append hquote hfree]
    rfl
  | @number sign whole fraction hsign hwhole hfraction =>
    obtain ⟨hbefore, hbehind⟩ := hcut _ rfl
    apply isSome_read_of_readLiteral?
    apply isSome_readLiteral?
    right
    left
    have hunsigned : (readUnsigned? (whole ++ (fraction ++ behind))).isSome = true := by
      apply isSome_readUnsigned? hwhole
      rcases hfraction with rfl | ⟨digits, rfl, _⟩
      · have hlast : startsWord (sign ++ (whole ++ [])).reverse = true := by
          rw [List.append_nil, List.reverse_append]
          apply startsWord_append
          apply startsWord_of_digits
          simpa using hwhole
        rw [hlast, Bool.true_and] at hbehind
        exact hbehind
      · rw [List.cons_append, startsWord]
        decide
    rw [List.append_assoc, List.append_assoc]
    rcases hsign with rfl | rfl
    · have hfirst : startsWord ([] ++ (whole ++ fraction)) = true :=
        startsWord_append (startsWord_of_digits hwhole) fraction
      rw [hfirst, Bool.and_true] at hbefore
      rw [List.nil_append, readNumber?_of_digits hwhole, hbefore]
      exact hunsigned
    · rw [List.singleton_append, readNumber?, Option.isSome_map]
      exact hunsigned
  | @truth word hword =>
    obtain ⟨hbefore, hbehind⟩ := hcut _ rfl
    apply isSome_read_of_readLiteral?
    apply isSome_readLiteral?
    right
    right
    have hends : startsWord word.toList = true ∧ startsWord word.toList.reverse = true := by
      rcases hword with rfl | rfl <;> decide
    rw [hends.1, Bool.and_true] at hbefore
    rw [hends.2, Bool.true_and] at hbehind
    rw [readTruth?_append hword hbefore hbehind]
    rfl
  | comparator hspelling =>
    rw [read_comparator hspelling]
    rfl

/-! ## Blanks -/

/-- The ranges of code points that are blanks. -/
def blankRanges : List (Nat × Nat) :=
  [(0x9, 0xD), (0x20, 0x20), (0x85, 0x85), (0xA0, 0xA0), (0x1680, 0x1680), (0x2000, 0x200A),
   (0x2028, 0x2029), (0x202F, 0x202F), (0x205F, 0x205F), (0x3000, 0x3000)]

theorem exists_range_of_isBlank {c : Char} (hblank : isBlank c = true) :
    ∃ range ∈ blankRanges, range.1 ≤ c.toNat ∧ c.toNat ≤ range.2 := by
  simp only [isBlank, Bool.or_eq_true, Bool.and_eq_true, decide_eq_true_eq, beq_iff_eq] at hblank
  simp only [blankRanges, List.mem_cons, List.not_mem_nil, or_false, exists_eq_or_imp,
    exists_eq_left]
  omega

/-- No blank belongs to a word. -/
theorem isWord_of_isBlank {c : Char} (hblank : isBlank c = true) : isWord c = false := by
  have hapart : wordRanges.all (fun words =>
      blankRanges.all fun blanks => blanks.2.blt words.1 || words.2.blt blanks.1) = true := by
    decide +kernel
  simp only [List.all_eq_true, Bool.or_eq_true, Nat.blt_eq] at hapart
  obtain ⟨blanks, hblanks, hfirst, hlast⟩ := exists_range_of_isBlank hblank
  rw [← Bool.not_eq_true]
  intro hword
  obtain ⟨words, hwords, hlow, hhigh⟩ := (covers_iff wordRanges_ascending c.toNat).mp hword
  have := hapart words hwords blanks hblanks
  omega

theorem isDigit_of_isBlank {c : Char} (hblank : isBlank c = true) : isDigit c = false := by
  rw [← Bool.not_eq_true]
  intro hdigit
  have hword := isWord_of_isDigit hdigit
  rw [isWord_of_isBlank hblank] at hword
  exact absurd hword (by decide)

/-- A word that does not begin with a blank does not stand in front of one. -/
theorem not_begins_blank {word text : List Char} {c : Char} (hblank : isBlank c = true)
    (hword : word ≠ [] ∧ startsBlank word = false) : ¬ word <+: c :: text := by
  rcases hword with ⟨hsome, hsolid⟩
  cases word with
  | nil => exact absurd rfl hsome
  | cons d word =>
    rw [List.cons_prefix_cons]
    intro hbegins
    rcases hbegins with ⟨rfl, _⟩
    rw [startsBlank, hblank] at hsolid
    exact absurd hsolid (by decide)

/-- No token begins with a blank. -/
theorem read_blank {c : Char} (hblank : isBlank c = true) (before : Option Char)
    (text : List Char) : read before (c :: text) = none := by
  have hplain : isPlain c = true := by
    have hother (d : Char) (hsolid : isBlank d = false) : c ≠ d := by
      rintro rfl
      rw [hblank] at hsolid
      exact absurd hsolid (by decide)
    have hopens : c ≠ '{' ∧ c ≠ '\'' ∧ c ≠ '"' ∧ c ≠ '-' :=
      ⟨hother _ rfl, hother _ rfl, hother _ rfl, hother _ rfl⟩
    simp [isPlain, isDigit_of_isBlank hblank, hopens]
  have hkeywords : ∀ marker ∈ Comparator.byKeyword,
      marker.1 ≠ [] ∧ startsBlank marker.1 = false := by
    decide
  rw [read_of_isPlain hplain (not_begins_blank hblank (by decide))
    (not_begins_blank hblank (by decide))]
  rw [afterAny?_eq_none_iff.mpr fun marker hmem => not_begins_blank hblank (hkeywords marker hmem)]
  rfl

/-- Blanks hold no token, whatever stands around them. -/
theorem silent_blanks {blanks : List Char} (hblanks : Blanks blanks) (before : Option Char)
    (rest : List Char) : Silent read before blanks rest :=
  silent_of_forall (fun _ hmem _ _ => read_blank (hblanks _ hmem) _ _) before rest

/-- The scan passes over exactly the texts in which no token stands. -/
theorem silent_iff_free {before : Option Char} {gap rest : List Char} :
    Silent read before gap rest ↔ Free before gap rest := by
  constructor
  · intro hsilent front back taken behind hgap hback htext token hstands
    cases back with
    | nil => exact hback rfl
    | cons c back =>
      have hnone := hsilent front c back hgap
      have hsome := isSome_read_of_stands hstands
      rw [← htext, List.cons_append, hnone] at hsome
      exact absurd hsome (by simp)
  · intro hfree front c back hgap
    cases hread : read (lastOf before front) (c :: (back ++ rest)) with
    | none => rfl
    | some found =>
      obtain ⟨taken, htext, hstands⟩ := exists_stands_of_read hread
      exact absurd hstands (hfree front (c :: back) taken _ hgap (by simp) htext _)

end Aviso.Token
