import Mathlib.Data.List.Basic
import Aviso.Block
import Aviso.Proofs.Text.Blank
import Aviso.Proofs.Text.Cut
import Aviso.Proofs.Text.Scan

/-!
# The blocks of a template as a grammar

An `Occurrence` is a tag, a body and the closing tag, as they stand in a
template.  The `grammar` of templates says which occurrences a template consists
of, and which gaps it has between them, in terms of the text alone.

* `read_text` and `exists_of_read`: the block reader reads the occurrences and
  nothing else, so that it reads the grammar (`readBy_read`).
* `readAll_division`: a template has exactly one division, its blocks are the
  well-formed occurrences of it, and they hold what the grammar lets them hold.
-/

namespace Aviso

open Text

/-- What the tag admits behind its word: an unconditional tag blanks alone, and a
conditional one nothing, or a blank and any text. -/
def Tag.Admits (tag : Tag) (tail : List Char) : Prop :=
  match tag with
  | .always | .otherwise => Blanks tail
  | .when | .orWhen => tail = [] ∨ startsBlank tail = true

instance (tag : Tag) (tail : List Char) : Decidable (tag.Admits tail) :=
  match tag with
  | .always | .otherwise => inferInstanceAs (Decidable (Blanks tail))
  | .when | .orWhen => inferInstanceAs (Decidable (tail = [] ∨ startsBlank tail = true))

namespace Block

/-! ## Occurrences -/

/-- A tag, a body and the closing tag, as they can stand in a template. -/
@[ext]
structure Occurrence where
  /-- The word of the tag is the longest one with which the tag begins. -/
  tag : Tag
  /-- The rest of the tag, up to the next bracket. -/
  tail : List Char
  /-- The text up to the nearest closing tag. -/
  body : List Char
  longest : ∀ other : Tag, other.keyword.toList <+: tag.keyword.toList ++ tail →
    other.keyword.length ≤ tag.keyword.length
  tail_free : ∀ c ∈ tail, isBracket c = false
  body_free : ¬ closing <:+: body

namespace Occurrence

/-- The occurrence as it stands in a template. -/
def text (o : Occurrence) : List Char :=
  '[' :: (o.tag.keyword.toList ++ (o.tail ++ ']' :: (o.body ++ closing)))

/-- The tag admits what stands behind its word. -/
def WellFormed (o : Occurrence) : Prop :=
  o.tag.Admits o.tail

instance (o : Occurrence) : Decidable o.WellFormed :=
  inferInstanceAs (Decidable (o.tag.Admits o.tail))

/-- The block that a well-formed occurrence is. -/
def block (o : Occurrence) : Block :=
  match o.tag with
  | .always => .always (String.ofList o.body)
  | .when => .when (String.ofList (trim o.tail)) (String.ofList o.body)
  | .orWhen => .orWhen (String.ofList (trim o.tail)) (String.ofList o.body)
  | .otherwise => .otherwise (String.ofList o.body)

end Occurrence

/-! ## What the reader reads -/

theorem ofParts?_eq_some_iff {o : Occurrence} {block : Block} :
    ofParts? o.tag o.tail o.body = some block ↔ o.WellFormed ∧ o.block = block := by
  unfold ofParts? Occurrence.WellFormed Tag.Admits Occurrence.block
  cases o.tag with
  | always | otherwise =>
    simp only [← @trim_eq_nil_iff o.tail, List.isEmpty_iff]
    by_cases hblanks : trim o.tail = [] <;> simp [hblanks]
  | when | orWhen =>
    simp only [Bool.or_eq_true, List.isEmpty_iff]
    by_cases hblank : o.tail = [] ∨ startsBlank o.tail = true <;> simp [hblank]

theorem ofParts?_eq_none_iff {o : Occurrence} :
    ofParts? o.tag o.tail o.body = none ↔ ¬ o.WellFormed := by
  simp [Option.eq_none_iff_forall_ne_some, ofParts?_eq_some_iff]

theorem text_append (o : Occurrence) (behind : List Char) :
    o.text ++ behind =
      '[' :: (o.tag.keyword.toList ++ (o.tail ++ ']' :: (o.body ++ (closing ++ behind)))) := by
  simp [Occurrence.text]

/-- An occurrence begins with an opening bracket. -/
theorem Occurrence.not_begins {c : Char} (hopens : c ≠ '[') (o : Occurrence) (text : List Char) :
    ¬ o.text <+: c :: text := by
  intro hbegins
  exact hopens (List.cons_prefix_cons.mp hbegins).1.symm

theorem mem_byKeyword (tag : Tag) : (tag.keyword.toList, tag) ∈ Tag.byKeyword := by
  cases tag <;> decide

theorem eq_of_mem_byKeyword {word : List Char} {tag : Tag} (hmem : (word, tag) ∈ Tag.byKeyword) :
    word = tag.keyword.toList := by
  obtain ⟨other, _, hother⟩ := List.mem_map.mp hmem
  obtain ⟨rfl, rfl⟩ := Prod.mk.inj hother
  rfl

theorem closing_bracket_free (tag : Tag) : ']' ∉ tag.keyword.toList := by
  cases tag <;> decide

theorem keyword_injective {first second : Tag}
    (hsame : first.keyword.toList = second.keyword.toList) : first = second := by
  revert hsame
  cases first <;> cases second <;> decide

/-- The tag word that is found is the longest one that fits. -/
theorem afterAny?_byKeyword_iff {text behind : List Char} {tag : Tag} :
    afterAny? Tag.byKeyword text = some (tag, behind) ↔
      text = tag.keyword.toList ++ behind ∧
        ∀ other : Tag, other.keyword.toList <+: text →
          other.keyword.length ≤ tag.keyword.length := by
  have hsound : ∀ {tag behind}, afterAny? Tag.byKeyword text = some (tag, behind) →
      text = tag.keyword.toList ++ behind ∧
        ∀ other : Tag, other.keyword.toList <+: text →
          other.keyword.length ≤ tag.keyword.length := by
    intro tag behind hfound
    obtain ⟨word, hmem, htext⟩ := mem_of_afterAny? hfound
    rw [eq_of_mem_byKeyword hmem] at htext
    refine ⟨htext, fun other hother => ?_⟩
    have hlength := length_le_of_afterAny? (by decide) hfound (mem_byKeyword other) hother
    rw [htext, List.length_append, String.length_toList, String.length_toList] at hlength
    omega
  refine ⟨hsound, ?_⟩
  intro hword
  rcases hword with ⟨htext, hlongest⟩
  cases hfound : afterAny? Tag.byKeyword text with
  | none =>
    refine absurd ?_ (afterAny?_eq_none_iff.mp hfound _ (mem_byKeyword tag))
    exact ⟨behind, htext.symm⟩
  | some found =>
    obtain ⟨other, rest⟩ := found
    obtain ⟨hother, hlonger⟩ := hsound hfound
    have hle := hlongest other ⟨rest, hother.symm⟩
    have hge := hlonger tag ⟨behind, htext.symm⟩
    have hlength : other.keyword.toList.length = tag.keyword.toList.length := by
      rw [String.length_toList, String.length_toList]
      omega
    obtain ⟨hword, rfl⟩ := List.append_inj (hother.symm.trans htext) hlength
    rw [keyword_injective hword]

theorem bracketFree_iff {text : List Char} :
    text.all (fun c => !isBracket c) = true ↔ ∀ c ∈ text, isBracket c = false := by
  simp

/-- The part of a tag behind its word ends at the next bracket. -/
theorem span_tail {tail : List Char} (text : List Char)
    (hfree : ∀ c ∈ tail, isBracket c = false) :
    (tail ++ ']' :: text).takeWhile (fun c => !isBracket c) = tail ∧
      (tail ++ ']' :: text).dropWhile (fun c => !isBracket c) = ']' :: text := by
  apply span_append
  · intro c hmem
    rw [hfree c hmem]
    rfl
  · intro c hmem
    obtain rfl := Option.some.inj hmem
    decide

theorem afterAny?_byKeyword (o : Occurrence) (text : List Char) :
    afterAny? Tag.byKeyword (o.tag.keyword.toList ++ (o.tail ++ ']' :: text)) =
      some (o.tag, o.tail ++ ']' :: text) := by
  rw [afterAny?_byKeyword_iff]
  refine ⟨rfl, fun other hother => o.longest other ?_⟩
  rw [← List.append_assoc] at hother
  exact begins_of_not_mem hother (closing_bracket_free other)

theorem cut?_closing_append {body : List Char} (hfree : ¬ closing <:+: body)
    (behind : List Char) : cut? closing (body ++ (closing ++ behind)) = some (body, behind) :=
  cut?_append (by decide) (not_infix_append_dropLast (by decide) (by decide) hfree) behind

/-- The reader reads an occurrence at the front of a text. -/
theorem read_text (o : Occurrence) (before : Option Char) (behind : List Char) :
    read before (o.text ++ behind) = some (ofParts? o.tag o.tail o.body, behind) := by
  obtain ⟨htake, hdrop⟩ := span_tail (o.body ++ (closing ++ behind)) o.tail_free
  rw [text_append, read]
  simp [afterAny?_byKeyword, htake, hdrop, cut?_closing_append o.body_free, after?]

/-- Whatever the reader reads is an occurrence. -/
theorem exists_of_read {before : Option Char} {text behind : List Char} {value : Option Block}
    (hread : read before text = some (value, behind)) :
    ∃ o : Occurrence, text = o.text ++ behind ∧ value = ofParts? o.tag o.tail o.body := by
  unfold read at hread
  split at hread
  · rename_i inside
    simp only [Option.bind_eq_bind, Option.bind_eq_some_iff, Prod.exists, Option.pure_def,
      Option.some.injEq, Prod.mk.injEq] at hread
    rcases hread with ⟨tag, rest, hword, further, hclose, body, last, hbody, rfl, rfl⟩
    obtain ⟨rfl, hlongest⟩ := afterAny?_byKeyword_iff.mp hword
    have hrest := List.takeWhile_append_dropWhile (p := fun c => !isBracket c) (l := rest)
    rw [after?_eq_some_iff.mp hclose, append_of_cut? hbody, List.append_assoc] at hrest
    have hfree : ∀ c ∈ rest.takeWhile fun c => !isBracket c, isBracket c = false := by
      intro c hmem
      simpa using List.mem_takeWhile_imp hmem
    refine ⟨⟨tag, rest.takeWhile fun c => !isBracket c, body, ?_, hfree,
      not_infix_of_cut? (by decide) hbody⟩, ?_, rfl⟩
    · intro other hother
      apply hlongest other
      rw [← hrest, ← List.append_assoc]
      exact hother.trans (List.prefix_append _ _)
    · rw [text_append]
      exact congrArg (fun inside => '[' :: (tag.keyword.toList ++ inside)) hrest.symm
  · exact absurd hread (by simp)

/-- The reader finds nothing exactly where no occurrence stands. -/
theorem read_eq_none_iff {before : Option Char} {text : List Char} :
    read before text = none ↔ ∀ o : Occurrence, ¬ o.text <+: text := by
  constructor
  · rintro hnone o ⟨behind, rfl⟩
    rw [read_text] at hnone
    exact absurd hnone (by simp)
  · intro hfree
    cases hread : read before text with
    | none => rfl
    | some found =>
      obtain ⟨o, rfl, _⟩ := exists_of_read hread
      exact absurd (List.prefix_append o.text _) (hfree o)

/-! ## Divisions of a template -/

theorem Occurrence.text_injective {first second : Occurrence} (hsame : first.text = second.text) :
    first = second := by
  have hinside := (List.cons.inj hsame).2
  have hfirst := afterAny?_byKeyword first (first.body ++ closing)
  rw [hinside, afterAny?_byKeyword second (second.body ++ closing)] at hfirst
  obtain ⟨htag, htail⟩ := Prod.mk.inj (Option.some.inj hfirst)
  have hspan := span_tail (second.body ++ closing) second.tail_free
  rw [htail, (span_tail _ first.tail_free).1, (span_tail _ first.tail_free).2] at hspan
  have hbody := List.append_cancel_right (List.cons.inj hspan.2).2
  exact Occurrence.ext htag.symm hspan.1 hbody

/-- What can stand in a template: occurrences. -/
def grammar : Grammar Occurrence where
  Begins text := ∃ o : Occurrence, o.text <+: text
  Admits _ := True
  text := Occurrence.text
  text_ne_nil _ := List.cons_ne_nil _ _
  text_injective := Occurrence.text_injective

/-- The block reader reads the occurrences. -/
theorem readBy_read : grammar.ReadBy read fun o => ofParts? o.tag o.tail o.body where
  none_iff {before text} := by
    rw [read_eq_none_iff]
    exact not_exists.symm
  some_iff {before text value behind} := by
    constructor
    · intro hread
      obtain ⟨o, htext, hvalue⟩ := exists_of_read hread
      exact ⟨o, htext, trivial, hvalue⟩
    · rintro ⟨o, rfl, -, rfl⟩
      exact read_text o before behind

/-- The blocks of a template are those of its occurrences that are well formed. -/
theorem readAll_eq_of_divides {template : String} {found : List (List Char × Occurrence)}
    {rest : List Char} (hdivides : grammar.Divides template.toList found rest) :
    readAll template = found.filterMap fun part => ofParts? part.2.tag part.2.tail part.2.body := by
  rw [readAll, (readBy_read.divided hdivides none).finds_eq, List.filterMap_map, List.filterMap_map]
  rfl

/-- The occurrences of which a division gives the blocks. -/
theorem readAll_eq_map_filter {template : String} {found : List (List Char × Occurrence)}
    {rest : List Char} (hdivides : grammar.Divides template.toList found rest) :
    readAll template =
      ((found.map Prod.snd).filter fun o => o.WellFormed).map Occurrence.block := by
  rw [readAll_eq_of_divides hdivides]
  clear hdivides
  induction found with
  | nil => rfl
  | cons part found ih =>
    rw [List.map_cons, List.filterMap_cons, List.filter_cons, ih]
    by_cases hformed : part.2.WellFormed
    · rw [ofParts?_eq_some_iff.mpr ⟨hformed, rfl⟩]
      simp [hformed]
    · rw [ofParts?_eq_none_iff.mpr hformed]
      simp [hformed]

/-- The body and the condition of an occurrence hold no closing tag and no bracket. -/
theorem Occurrence.block_parts (o : Occurrence) :
    ¬ closing <:+: o.block.body.toList ∧
      ∀ condition ∈ o.block.condition?,
        Trimmed condition.toList ∧ ∀ c ∈ condition.toList, isBracket c = false := by
  have hcondition : Trimmed (trim o.tail) ∧ ∀ c ∈ trim o.tail, isBracket c = false :=
    ⟨trimmed_trim o.tail, fun c hmem => o.tail_free c ((trim_isInfix o.tail).subset hmem)⟩
  have hbody := o.body_free
  unfold Occurrence.block
  cases o.tag with
  | always | otherwise => simpa [Block.body, Block.condition?] using hbody
  | when | orWhen => simpa [Block.body, Block.condition?] using And.intro hbody hcondition

/-- A template has exactly one division, and its blocks are those occurrences of
it that are well formed, in order.  So no body holds the closing tag, and every
condition is trimmed and free of brackets. -/
theorem readAll_division (template : String) :
    (∃ found rest, grammar.Divides template.toList found rest ∧
      (∀ found' rest', grammar.Divides template.toList found' rest' →
        found' = found ∧ rest' = rest) ∧
      template.toList = found.flatMap (fun part => part.1 ++ part.2.text) ++ rest ∧
      readAll template =
        ((found.map Prod.snd).filter fun o => o.WellFormed).map Occurrence.block) ∧
    ∀ block ∈ readAll template, ¬ closing <:+: block.body.toList ∧
      ∀ condition ∈ block.condition?,
        Trimmed condition.toList ∧ ∀ c ∈ condition.toList, isBracket c = false := by
  obtain ⟨found, rest, hdivides, hunique, htext⟩ := readBy_read.exists_division template.toList
  have hblocks := readAll_eq_map_filter hdivides
  refine ⟨⟨found, rest, hdivides, hunique, htext, hblocks⟩, fun block hmem => ?_⟩
  rw [hblocks] at hmem
  obtain ⟨o, _, rfl⟩ := List.mem_map.mp hmem
  exact o.block_parts

end Block

end Aviso
