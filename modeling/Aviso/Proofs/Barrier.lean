import Aviso.Proofs.Blocks

/-!
# Closing tags as barriers

Everything that stands in front of a closing tag is settled there: no occurrence
crosses it, whether it is well formed or not.

* `sealed_append_closing`: what is read in front of a closing tag does not depend
  on what stands behind it.
* `readAll_append_closing`: so a template can be split behind any closing tag.
-/

namespace Aviso.Block

open Text

/-! ## No occurrence crosses a closing tag -/

/-- An occurrence without its closing tag. -/
def Occurrence.front (o : Occurrence) : List Char :=
  '[' :: (o.tag.keyword.toList ++ (o.tail ++ ']' :: o.body))

theorem Occurrence.text_eq (o : Occurrence) : o.text = o.front ++ closing := by
  simp [text, front]

/-- An opening tag adds no closing tag to the text behind it: its word is not that of
the closing tag, and the rest of it holds no bracket. -/
theorem closing_not_infix_opening {tag : Tag} {tail text : List Char}
    (htail : ∀ c ∈ tail, isBracket c = false) (htext : ¬ closing <:+: text) :
    ¬ closing <:+: '[' :: (tag.keyword.toList ++ (tail ++ ']' :: text)) := by
  have hword : '[' ∉ tag.keyword.toList ∧ ¬ closing.tail.take 1 <+: tag.keyword.toList ∧
      1 ≤ tag.keyword.toList.length := by
    cases tag <;> decide
  intro hwithin
  rcases List.infix_cons_iff.mp hwithin with hbegins | hinside
  · have hfirst : closing.tail.take 1 <+: tag.keyword.toList ++ (tail ++ ']' :: text) :=
      (List.take_prefix 1 _).trans (List.cons_prefix_cons.mp hbegins).2
    exact hword.2.1 (List.prefix_of_prefix_length_le hfirst (List.prefix_append _ _) hword.2.2)
  · have hfree : '[' ∉ tag.keyword.toList ++ (tail ++ [']']) := by
      rw [List.mem_append, List.mem_append, not_or, not_or]
      refine ⟨hword.1, ?_, by decide⟩
      intro hmem
      exact absurd (htail '[' hmem) (by decide)
    apply htext
    apply infix_of_infix_append hfree
    rw [List.append_assoc, List.append_assoc]
    exact hinside

/-- The closing tag of an occurrence is the first one in it. -/
theorem Occurrence.closing_not_infix_front (o : Occurrence) : ¬ closing <:+: o.front :=
  closing_not_infix_opening o.tail_free o.body_free

/-- An occurrence that begins in front of a closing tag ends there at the latest. -/
theorem Occurrence.begins_of_append_closing (o : Occurrence) {front behind : List Char}
    (hbegins : o.text <+: front ++ closing ++ behind) : o.text <+: front ++ closing := by
  rcases List.prefix_or_prefix_of_prefix hbegins (List.prefix_append _ behind) with hle | hle
  · exact hle
  · rw [o.text_eq] at hle ⊢
    obtain rfl := eq_of_append_begins (by decide) (by decide) o.closing_not_infix_front hle
    exact List.prefix_rfl

/-- The reader does not look at the character in front. -/
theorem read_blind (before other : Option Char) (text : List Char) :
    read before text = read other text := by
  unfold read
  cases text with
  | nil => rfl
  | cons c text => by_cases hopens : c = '[' <;> simp [hopens]

theorem read_of_ne {c : Char} (hopens : c ≠ '[') (before : Option Char) (text : List Char) :
    read before (c :: text) = none := by
  rw [read_eq_none_iff]
  exact fun o => o.not_begins hopens text

theorem read_append_closing (before : Option Char) (front behind : List Char) :
    read before (front ++ closing ++ behind) =
      (read before (front ++ closing)).map fun found => (found.1, found.2 ++ behind) := by
  cases hread : read before (front ++ closing) with
  | some found =>
    obtain ⟨o, htext, hvalue⟩ := exists_of_read hread
    rw [htext, List.append_assoc, read_text, ← hvalue]
    rfl
  | none =>
    rw [Option.map_none, read_eq_none_iff]
    intro o hbegins
    exact read_eq_none_iff.mp hread o (o.begins_of_append_closing hbegins)

/-- What is read in front of a closing tag does not depend on what stands behind. -/
theorem sealed_append_closing (text : List Char) : Sealed read (text ++ closing) := by
  have hword : '[' ∉ closing.tail := by decide
  refine sealed_append (fun c hmem before behind => ?_) read_append_closing text
  apply read_of_ne
  rintro rfl
  exact hword hmem

/-! ## Templates that are split behind a closing tag -/

theorem finds_append_closing (front behind : List Char) :
    finds read (front ++ closing ++ behind) =
      finds read (front ++ closing) ++ finds read behind :=
  (sealed_append_closing front).finds_append readBy_read.takes read_blind behind

/-- Without a closing tag there is no block. -/
theorem finds_eq_nil {text : List Char} (hfree : ¬ closing <:+: text) : finds read text = [] := by
  obtain ⟨found, rest, hdivided⟩ := exists_divided readBy_read.takes none text
  obtain ⟨parts, rfl, hdivides⟩ := readBy_read.exists_divides hdivided
  rw [hdivided.finds_eq]
  cases hdivides with
  | last => rfl
  | @item gap o behind =>
    have htext : grammar.text o = o.front ++ closing := o.text_eq
    refine absurd ⟨gap ++ o.front, behind, ?_⟩ hfree
    rw [htext]
    simp

/-- A closing tag divides a template into two that can be read apart, whatever
stands in front of it and behind it.  So a text without a closing tag at the end
of a template adds no block. -/
theorem readAll_append_closing (front behind : String) :
    readAll (front ++ "[FIN]" ++ behind) = readAll (front ++ "[FIN]") ++ readAll behind ∧
      (¬ closing <:+: behind.toList →
        readAll (front ++ "[FIN]" ++ behind) = readAll (front ++ "[FIN]")) := by
  have hsplit :
      readAll (front ++ "[FIN]" ++ behind) = readAll (front ++ "[FIN]") ++ readAll behind := by
    simp only [readAll, String.toList_append]
    rw [← List.filterMap_append, ← closing, finds_append_closing]
  refine ⟨hsplit, fun hfree => ?_⟩
  rw [hsplit, readAll, readAll, finds_eq_nil hfree]
  simp

end Aviso.Block
