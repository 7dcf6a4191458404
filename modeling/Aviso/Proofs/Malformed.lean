import Aviso.Proofs.Barrier

/-!
# Tags that open no block

A text between brackets opens a block if it is the word of a tag with something
behind it that the tag admits (`Opens`).  Any other text between brackets is
malformed, and there are two kinds of it.

* `finds_append_of_wordless`: one that begins with no tag word is passed over.
* `finds_append_of_word`: one that begins with a tag word takes the text up to the
  next closing tag with it.
* `readAll_malformed_tag`: so a malformed tag hides exactly the blocks up to that
  closing tag, if it begins with a tag word, and none if it does not.
-/

namespace Aviso

open Text

namespace Block

/-- The text between two brackets opens a block. -/
def Opens (inside : List Char) : Prop :=
  ∃ tag : Tag, ∃ tail, inside = tag.keyword.toList ++ tail ∧ tag.Admits tail

instance (inside : List Char) : Decidable (Opens inside) :=
  decidable_of_iff (∃ part ∈ Tag.byKeyword, ∃ tail ∈ after? part.1 inside, part.2.Admits tail) <| by
    constructor
    · rintro ⟨⟨word, tag⟩, hmem, tail, htail, hadmits⟩
      obtain rfl := eq_of_mem_byKeyword hmem
      exact ⟨tag, tail, after?_eq_some_iff.mp htail, hadmits⟩
    · rintro ⟨tag, tail, hinside, hadmits⟩
      exact ⟨_, mem_byKeyword tag, tail, after?_eq_some_iff.mpr hinside, hadmits⟩

/-- The text begins with the word of no tag. -/
def Wordless (inside : List Char) : Prop :=
  ∀ tag : Tag, ¬ tag.keyword.toList <+: inside

/-- The blocks of a text up to its first closing tag. -/
def upToClosing (text : List Char) : List Block :=
  match cut? closing text with
  | some (body, _) => readAll (String.ofList (body ++ closing))
  | none => []

/-! ## A tag without a word -/

/-- No occurrence begins in a bracketed text that begins with no tag word. -/
theorem silent_of_wordless {inside : List Char} (hfree : ∀ c ∈ inside, isBracket c = false)
    (hwordless : Wordless inside) (rest : List Char) :
    Silent read none ('[' :: (inside ++ [']'])) rest := by
  rw [silent_cons_iff]
  constructor
  · rw [read_eq_none_iff]
    intro o hbegins
    apply hwordless o.tag
    rw [Occurrence.text, List.cons_prefix_cons, List.append_assoc] at hbegins
    exact begins_of_not_mem ((List.prefix_append _ _).trans hbegins.2) (closing_bracket_free o.tag)
  · apply silent_of_forall
    intro c hmem before text
    apply read_of_ne
    rintro rfl
    rcases List.mem_append.mp hmem with hmem | hmem
    · exact absurd (hfree '[' hmem) (by decide)
    · exact absurd hmem (by decide)

theorem finds_append_of_wordless {inside : List Char} (hfree : ∀ c ∈ inside, isBracket c = false)
    (hwordless : Wordless inside) (rest : List Char) :
    finds read ('[' :: (inside ++ ']' :: rest)) = finds read rest := by
  have hfinds := (silent_of_wordless hfree hwordless rest).finds_append read_blind
  simpa using hfinds

/-! ## A tag with a word -/

/-- An occurrence at the front of a text is its first find. -/
theorem finds_text_append (o : Occurrence) (behind : List Char) :
    finds read (o.text ++ behind) = ofParts? o.tag o.tail o.body :: finds read behind := by
  have hread := read_text o none behind
  have htext : o.text = '[' :: o.text.tail := rfl
  rw [htext, List.cons_append] at hread ⊢
  rw [finds, scan, scanFrom_of_found hread, scanFrom_eq_of_forall read_blind _ none]
  rfl

/-- The longest tag word with which a text begins. -/
theorem exists_longest {inside : List Char} (hword : ¬ Wordless inside) :
    ∃ tag : Tag, ∃ tail, inside = tag.keyword.toList ++ tail ∧
      ∀ other : Tag, other.keyword.toList <+: inside →
        other.keyword.length ≤ tag.keyword.length := by
  cases hfound : afterAny? Tag.byKeyword inside with
  | some found => exact ⟨found.1, found.2, afterAny?_byKeyword_iff.mp hfound⟩
  | none =>
    exact absurd (fun tag => afterAny?_eq_none_iff.mp hfound _ (mem_byKeyword tag)) hword

/-- A tag that begins with a tag word makes an occurrence with the text up to a closing tag,
well formed only if the tag opens a block. -/
theorem exists_occurrence_of_not_wordless {inside : List Char}
    (hfree : ∀ c ∈ inside, isBracket c = false) (hword : ¬ Wordless inside) {body : List Char}
    (hbody : ¬ closing <:+: body) :
    ∃ o : Occurrence, o.text = '[' :: (inside ++ ']' :: (body ++ closing)) ∧
      (o.WellFormed → Opens inside) := by
  obtain ⟨tag, tail, rfl, hlongest⟩ := exists_longest hword
  have htail : ∀ c ∈ tail, isBracket c = false :=
    fun c hmem => hfree c (List.mem_append_right _ hmem)
  refine ⟨⟨tag, tail, body, hlongest, htail, hbody⟩, ?_, fun hformed => ⟨tag, tail, rfl, hformed⟩⟩
  rw [Occurrence.text, List.append_assoc]

/-- A malformed tag that begins with a tag word takes the text up to the next
closing tag with it. -/
theorem finds_append_of_word {inside : List Char} (hfree : ∀ c ∈ inside, isBracket c = false)
    (hmalformed : ¬ Opens inside) (hword : ¬ Wordless inside) {body : List Char}
    (hbody : ¬ closing <:+: body) (behind : List Char) :
    finds read ('[' :: (inside ++ ']' :: (body ++ (closing ++ behind)))) =
      none :: finds read behind := by
  obtain ⟨o, htext, hopens⟩ := exists_occurrence_of_not_wordless hfree hword hbody
  have hfinds := finds_text_append o behind
  rw [ofParts?_eq_none_iff.mpr fun hformed => hmalformed (hopens hformed), htext] at hfinds
  simpa using hfinds

/-! ## What a malformed tag hides -/

/-- A malformed tag that begins with a tag word hides the blocks up to the next
closing tag. -/
theorem readAll_of_word {inside rest : String} (hfree : ∀ c ∈ inside.toList, isBracket c = false)
    (hmalformed : ¬ Opens inside.toList) (hword : ¬ Wordless inside.toList) :
    readAll rest = upToClosing rest.toList ++ readAll ("[" ++ inside ++ "]" ++ rest) := by
  cases hcut : cut? closing rest.toList with
  | some found =>
    obtain ⟨body, behind⟩ := found
    have hbody := not_infix_of_cut? (by decide) hcut
    have hfinds := finds_append_of_word hfree hmalformed hword hbody behind
    have hrest := append_of_cut? hcut
    have hupTo : upToClosing rest.toList = readAll (String.ofList (body ++ closing)) := by
      rw [upToClosing, hcut]
    have hleft : readAll ("[" ++ inside ++ "]" ++ rest) = readAll (String.ofList behind) := by
      rw [← List.append_assoc, ← hrest] at hfinds
      simp [readAll, hfinds]
    rw [hupTo, hleft, readAll, readAll, readAll, hrest, finds_append_closing,
      List.filterMap_append, String.toList_ofList, String.toList_ofList]
  | none =>
    have hrest := (cut?_eq_none_iff (by decide)).mp hcut
    obtain ⟨tag, tail, hinside, _⟩ := exists_longest hword
    have htail : ∀ c ∈ tail, isBracket c = false := by
      intro c hmem
      apply hfree
      rw [hinside]
      exact List.mem_append_right _ hmem
    have hwhole := @closing_not_infix_opening tag _ _ htail hrest
    simp [readAll, upToClosing, hcut, hinside, finds_eq_nil hrest, finds_eq_nil hwhole]

/-- A malformed tag hides exactly the blocks up to the next closing tag, if it
begins with a tag word, and none if it does not.  So it is invisible where it
begins with no tag word, and where no block stands up to that closing tag. -/
theorem readAll_malformed_tag (inside rest : String)
    (hfree : ∀ c ∈ inside.toList, isBracket c = false) (hmalformed : ¬ Opens inside.toList) :
    (readAll ("[" ++ inside ++ "]" ++ rest) = readAll rest ↔
      Wordless inside.toList ∨ upToClosing rest.toList = []) ∧
    (¬ Wordless inside.toList →
      readAll rest = upToClosing rest.toList ++ readAll ("[" ++ inside ++ "]" ++ rest)) := by
  have hhides := @readAll_of_word inside rest hfree hmalformed
  refine ⟨?_, hhides⟩
  by_cases hword : Wordless inside.toList
  · have hsame : readAll ("[" ++ inside ++ "]" ++ rest) = readAll rest := by
      have hfinds := finds_append_of_wordless hfree hword rest.toList
      simp [readAll, String.toList_append, hfinds]
    simp [hword, hsame]
  · have hsplit := hhides hword
    simp only [hword, false_or]
    constructor
    · intro hsame
      rw [hsame] at hsplit
      exact List.self_eq_append_left.mp hsplit
    · intro hnone
      rw [hsplit, hnone, List.nil_append]

/-- Where no block ends at the next closing tag, a malformed tag is invisible. -/
theorem readAll_malformed_base :
    (∀ c ∈ "BASE extra".toList, isBracket c = false) ∧ ¬ Opens "BASE extra".toList ∧
      readAll ("[" ++ "BASE extra" ++ "]" ++ "x[FIN][SINO]y[FIN]") =
        readAll "x[FIN][SINO]y[FIN]" := by
  have hfree : ∀ c ∈ "BASE extra".toList, isBracket c = false :=
    bracketFree_iff.mp (by decide)
  have hmalformed : ¬ Opens "BASE extra".toList := by decide
  have hinvisible := (readAll_malformed_tag "BASE extra" "x[FIN][SINO]y[FIN]" hfree hmalformed).1
  exact ⟨hfree, hmalformed, hinvisible.mpr (.inr (by decide))⟩

/-- A malformed tag hides a block that is complete. -/
theorem readAll_malformed_hides_block :
    (∀ c ∈ "SIEMPRE".toList, isBracket c = false) ∧ ¬ Opens "SIEMPRE".toList ∧
      readAll ("[" ++ "SIEMPRE" ++ "]" ++ "[BASE]x[FIN]") = [] ∧
      readAll "[BASE]x[FIN]" = [.always "x"] := by
  exact ⟨bracketFree_iff.mp (by decide), by decide, by decide, by decide⟩

end Block

end Aviso
