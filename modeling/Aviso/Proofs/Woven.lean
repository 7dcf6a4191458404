import Aviso.Proofs.Blocks

/-!
# Templates that are written from blocks

`Writes` says which texts write a block.  Blocks are written one after another,
with text in front of the first and behind each.

* `exists_occurrence`: a printable block is written as a well-formed occurrence.
* `exists_divides_placed`: where no gap holds an opening bracket, these occurrences
  are the division of the template.
* `readAll_placed`: so the blocks of the template are the blocks it is written from,
  in whichever way each of them is written.
* `readAll_weave`: the same of blocks that are printed.
-/

namespace Aviso.Block

open Text

instance (block : Block) : Decidable block.Printable :=
  inferInstanceAs (Decidable (_ ∧ _))

/-! ## One block -/

/-- What stands behind the word of the opening tag. -/
def tagTail (block : Block) : List Char :=
  match block.condition? with
  | none => []
  | some condition => if condition.isEmpty then [] else ' ' :: condition.toList

/-- The texts that write a block. -/
inductive Writes : Block → List Char → Prop where
  /-- The tag is its word alone.  The block has no condition, or an empty one. -/
  | word {block : Block} (hnone : ∀ condition ∈ block.condition?, condition = "") :
      Writes block ('[' :: (block.tag.keyword.toList ++ ']' :: (block.body.toList ++ closing)))
  /-- A blank divides the word of the tag from the condition. -/
  | condition {block : Block} {condition : String} (hsome : block.condition? = some condition) :
      Writes block ('[' :: (block.tag.keyword.toList ++
        ' ' :: (condition.toList ++ ']' :: (block.body.toList ++ closing))))

theorem opening_eq (block : Block) :
    block.opening = block.tag.keyword.toList ++ block.tagTail := by
  unfold opening tagTail
  cases block.condition? with
  | none => simp
  | some condition => by_cases hempty : condition.isEmpty = true <;> simp [hempty]

/-- A conditional tag has nothing behind its word, or a blank and its condition. -/
theorem tagTail_of_condition? {block : Block} {condition : String}
    (hcondition : block.condition? = some condition) :
    (condition = "" ∧ block.tagTail = []) ∨ block.tagTail = ' ' :: condition.toList := by
  unfold tagTail
  rw [hcondition]
  by_cases hempty : condition.isEmpty = true
  · left
    exact ⟨String.isEmpty_iff.mp hempty, by simp [hempty]⟩
  · right
    simp [hempty]

theorem tag_of_condition? {block : Block} {condition : String}
    (hcondition : block.condition? = some condition) : block.tag = .when ∨ block.tag = .orWhen := by
  cases block with
  | always | otherwise => exact absurd hcondition (by simp [condition?])
  | when => exact .inl rfl
  | orWhen => exact .inr rfl

/-- A printed block is a text that writes the block. -/
theorem writes_print (block : Block) : block.Writes block.print.toList := by
  have hprint : block.print.toList = '[' :: (block.tag.keyword.toList ++
      (block.tagTail ++ ']' :: (block.body.toList ++ closing))) := by
    rw [print, String.toList_ofList, opening_eq]
    simp
  rw [hprint]
  cases hcondition : block.condition? with
  | none =>
    have htail : block.tagTail = [] := by rw [tagTail, hcondition]
    rw [htail]
    exact .word (by simp [hcondition])
  | some condition =>
    rcases tagTail_of_condition? hcondition with ⟨rfl, htail⟩ | htail
    · rw [htail]
      exact .word (by simp [hcondition])
    · rw [htail]
      exact .condition hcondition

/-- The word of a conditional tag is the longest one that fits: behind it stands a
blank, and no longer word goes on with one. -/
theorem keyword_longest {tag : Tag} (htag : tag = .when ∨ tag = .orWhen) {text : List Char}
    (other : Tag) (hbegins : other.keyword.toList <+: tag.keyword.toList ++ ' ' :: text) :
    other.keyword.length ≤ tag.keyword.length := by
  have hblank : ¬ tag.keyword.toList ++ [' '] <+: other.keyword.toList := by
    rcases htag with rfl | rfl
    · cases other <;> decide
    · cases other <;> decide
  rw [← String.length_toList, ← String.length_toList]
  refine Nat.le_of_not_lt fun hlonger => hblank ?_
  rw [List.append_cons] at hbegins
  apply List.prefix_of_prefix_length_le (List.prefix_append _ text) hbegins
  rw [List.length_append, List.length_singleton]
  omega

/-- The occurrence of a tag that is its word alone. -/
theorem exists_occurrence_of_word {block : Block}
    (hnone : ∀ condition ∈ block.condition?, condition = "")
    (hbody : ¬ closing <:+: block.body.toList) :
    ∃ o : Occurrence,
      o.text = '[' :: (block.tag.keyword.toList ++ ']' :: (block.body.toList ++ closing)) ∧
        o.WellFormed ∧ o.block = block := by
  have hlongest (other : Tag) (hbegins : other.keyword.toList <+: block.tag.keyword.toList ++ []) :
      other.keyword.length ≤ block.tag.keyword.length := by
    rw [List.append_nil] at hbegins
    rw [← String.length_toList, ← String.length_toList]
    exact hbegins.length_le
  refine ⟨⟨block.tag, [], block.body.toList, hlongest, by simp, hbody⟩, rfl, ?_, ?_⟩
  · cases block with
    | always | otherwise => exact blanks_nil
    | when | orWhen => exact .inl rfl
  · cases block with
    | always | otherwise =>
      simp only [Occurrence.block, Block.tag, Block.body, String.ofList_toList]
    | when condition | orWhen condition =>
      obtain rfl := hnone condition rfl
      simp only [Occurrence.block, Block.tag, Block.body, String.ofList_toList]
      rfl

/-- The occurrence of a tag with a condition. -/
theorem exists_occurrence_of_condition {block : Block} {condition : String}
    (hsome : block.condition? = some condition) (htrimmed : Trimmed condition.toList)
    (hfree : ∀ c ∈ condition.toList, isBracket c = false)
    (hbody : ¬ closing <:+: block.body.toList) :
    ∃ o : Occurrence,
      o.text = '[' :: (block.tag.keyword.toList ++
        ' ' :: (condition.toList ++ ']' :: (block.body.toList ++ closing))) ∧
        o.WellFormed ∧ o.block = block := by
  have htail : ∀ c ∈ ' ' :: condition.toList, isBracket c = false := by
    rw [List.forall_mem_cons]
    exact ⟨by decide, hfree⟩
  have htrim : trim (' ' :: condition.toList) = condition.toList := by
    have hbetween := @trim_between [' '] condition.toList [] (by decide) blanks_nil htrimmed
    rwa [List.append_nil] at hbetween
  refine ⟨⟨block.tag, ' ' :: condition.toList, block.body.toList,
    keyword_longest (tag_of_condition? hsome), htail, hbody⟩, rfl, ?_, ?_⟩
  · cases block with
    | always | otherwise => exact absurd hsome (by simp [condition?])
    | when | orWhen => exact .inr rfl
  · cases block with
    | always | otherwise => exact absurd hsome (by simp [condition?])
    | when | orWhen =>
      obtain rfl := Option.some.inj hsome
      simp only [Occurrence.block, Block.tag, htrim, Block.body, String.ofList_toList]

/-- A printable block is written as a well-formed occurrence of it. -/
theorem exists_occurrence {block : Block} {text : List Char} (hprintable : block.Printable)
    (hwrites : block.Writes text) :
    ∃ o : Occurrence, o.text = text ∧ o.WellFormed ∧ o.block = block := by
  rcases hprintable with ⟨hconditions, hbody⟩
  have hclosing := (cut?_eq_none_iff (by decide)).mp hbody
  cases hwrites with
  | word hnone => exact exists_occurrence_of_word hnone hclosing
  | @condition condition hsome =>
    obtain ⟨htrimmed, hall⟩ := hconditions condition hsome
    exact exists_occurrence_of_condition hsome htrimmed (bracketFree_iff.mp hall) hclosing

/-! ## Many blocks -/

/-- The blocks, each with the text behind it, and the text in front of the first. -/
def weave (lead : List Char) : List (Block × List Char) → List Char
  | [] => lead
  | (block, gap) :: blocks => lead ++ (block.print.toList ++ weave gap blocks)

/-- A block as a template holds it: the text that writes it, and the text behind
that. -/
structure Placed where
  block : Block
  text : List Char
  gap : List Char

/-- The blocks as they stand, with the text in front of the first. -/
def placedText (lead : List Char) (parts : List Placed) : List Char :=
  lead ++ parts.flatMap fun part => part.text ++ part.gap

/-- No occurrence begins in a text without an opening bracket. -/
theorem vacant_of_not_mem {gap : List Char} (hfree : '[' ∉ gap) (behind : List Char) :
    grammar.Vacant gap behind := by
  rintro front back hsplit hback ⟨o, hbegins⟩
  cases back with
  | nil => exact hback rfl
  | cons c back =>
    have hopens : c ≠ '[' := by
      rintro rfl
      exact hfree (by simp [hsplit])
    exact o.not_begins hopens _ hbegins

/-- The occurrences of printable blocks are the division of a template in which
they stand. -/
theorem exists_divides_placed {lead : List Char} {parts : List Placed} (hlead : '[' ∉ lead)
    (hprintable : ∀ part ∈ parts, part.block.Printable)
    (hwrites : ∀ part ∈ parts, part.block.Writes part.text)
    (hgaps : ∀ part ∈ parts, '[' ∉ part.gap) :
    ∃ found rest, grammar.Divides (placedText lead parts) found rest ∧
      ((found.map Prod.snd).filter fun o => o.WellFormed).map Occurrence.block =
        parts.map Placed.block := by
  induction parts generalizing lead with
  | nil =>
    rw [placedText, List.flatMap_nil, List.append_nil]
    exact ⟨[], lead, .last (vacant_of_not_mem hlead []), rfl⟩
  | cons part parts ih =>
    obtain ⟨hblock, hprintable⟩ := List.forall_mem_cons.mp hprintable
    obtain ⟨hwritten, hwrites⟩ := List.forall_mem_cons.mp hwrites
    obtain ⟨hgap, hgaps⟩ := List.forall_mem_cons.mp hgaps
    obtain ⟨found, rest, hdivides, hfound⟩ := ih hgap hprintable hwrites hgaps
    obtain ⟨o, htext, hformed, hsame⟩ := exists_occurrence hblock hwritten
    refine ⟨(lead, o) :: found, rest, ?_, ?_⟩
    · have hwhole : placedText lead (part :: parts) =
          lead ++ (o.text ++ placedText part.gap parts) := by
        rw [placedText, placedText, List.flatMap_cons, htext, List.append_assoc]
      rw [hwhole]
      exact .item (vacant_of_not_mem hlead _) trivial hdivides
    · rw [List.map_cons, List.filter_cons, List.map_cons, ← hfound]
      simp [hformed, hsame]

/-- What is woven are the blocks, each as it is printed. -/
theorem weave_eq (lead : List Char) (blocks : List (Block × List Char)) :
    weave lead blocks =
      placedText lead (blocks.map fun part => ⟨part.1, part.1.print.toList, part.2⟩) := by
  induction blocks generalizing lead with
  | nil =>
    rw [List.map_nil, placedText, List.flatMap_nil, List.append_nil]
    rfl
  | cons part blocks ih =>
    rw [weave, ih, placedText, placedText, List.map_cons, List.flatMap_cons, List.append_assoc]

/-- The blocks of what is woven are the blocks that were woven. -/
theorem readAll_weave {lead : List Char} {blocks : List (Block × List Char)}
    (hlead : '[' ∉ lead) (hprintable : ∀ part ∈ blocks, part.1.Printable)
    (hgaps : ∀ part ∈ blocks, '[' ∉ part.2) :
    readAll (String.ofList (weave lead blocks)) = blocks.map Prod.fst := by
  obtain ⟨found, rest, hdivides, hfound⟩ :=
    @exists_divides_placed lead (blocks.map fun part => ⟨part.1, part.1.print.toList, part.2⟩) hlead
      (List.forall_mem_map.mpr hprintable)
      (List.forall_mem_map.mpr fun part _ => part.1.writes_print) (List.forall_mem_map.mpr hgaps)
  rw [← weave_eq, ← String.toList_ofList (l := weave lead blocks)] at hdivides
  rw [readAll_eq_map_filter hdivides, hfound, List.map_map]
  rfl

/-- The blocks of a template are the blocks that are written in it, in order, in
whichever way each of them is written and whatever stands between them. -/
theorem readAll_placed {lead : List Char} {parts : List Placed} (hlead : '[' ∉ lead)
    (hprintable : ∀ part ∈ parts, part.block.Printable)
    (hwrites : ∀ part ∈ parts, part.block.Writes part.text)
    (hgaps : ∀ part ∈ parts, '[' ∉ part.gap) :
    readAll (String.ofList (placedText lead parts)) = parts.map Placed.block := by
  obtain ⟨found, rest, hdivides, hfound⟩ :=
    exists_divides_placed hlead hprintable hwrites hgaps
  rw [← String.toList_ofList (l := placedText lead parts)] at hdivides
  rw [readAll_eq_map_filter hdivides, hfound]

/-- A body may hold opening tags and all of the closing tag but its last character,
and a conditional tag may stand without a condition. -/
theorem readAll_placed_three :
    readAll "a][SI ]x [BASE]y[FIN] \n[SINO PERO NO PERO]b[FIN[FIN][SINO][FIN]]" =
      [.when "" "x [BASE]y", .orWhen "NO PERO" "b[FIN", .otherwise ""] := by
  have hwrites : ∀ part ∈
      [Placed.mk (.when "" "x [BASE]y") "[SI ]x [BASE]y[FIN]".toList " \n".toList,
        ⟨.orWhen "NO PERO" "b[FIN", "[SINO PERO NO PERO]b[FIN[FIN]".toList, []⟩,
        ⟨.otherwise "", "[SINO][FIN]".toList, [']']⟩], part.block.Writes part.text := by
    simp only [List.forall_mem_cons]
    exact ⟨@Writes.condition (.when "" "x [BASE]y") "" rfl,
      writes_print (.orWhen "NO PERO" "b[FIN"), writes_print (.otherwise ""), by simp⟩
  have hplaced := @readAll_placed "a]".toList _ (by decide) (by decide) hwrites (by decide)
  rw [← String.ofList_toList
    (s := "a][SI ]x [BASE]y[FIN] \n[SINO PERO NO PERO]b[FIN[FIN][SINO][FIN]]")]
  exact hplaced

end Aviso.Block
