import Aviso.Proofs.Body
import Aviso.Proofs.Condition.Worded
import Aviso.Proofs.Selection
import Aviso.Proofs.Woven

/-!
# What a written template means

A `Script` is a template before it is written: passages, each with the parts of
its body and, if it is conditional, the wording of its condition.  It has a
meaning of its own, in which no text is searched: `Passage.view` says what each
passage comes to, and `Ends` which of them is sent.

* `Script.readAll_text`: the blocks of a written script are its passages.
* `Passage.applies_block` and `Passage.sent_block`: a block that is read asks and
  sends what its passage does.
* `Script.render_text_iff_ends`: rendering a written script ends exactly as the
  script does.
-/

namespace Aviso

open Text

/-! ## Scripts -/

/-- The parts of a body, which do not write the closing tag together. -/
structure Script.Content where
  parts : List Body.Part
  closing_free : ¬ Block.closing <:+: parts.flatMap Body.Part.text

/-- A text without an opening bracket. -/
structure Script.Gap where
  text : List Char
  bracket_free : '[' ∉ text

/-- A block of a template before it is written. -/
inductive Passage where
  | always (content : Script.Content)
  | when (condition : Wording) (content : Script.Content)
  | orWhen (condition : Wording) (content : Script.Content)
  | otherwise (content : Script.Content)

namespace Passage

def tag : Passage → Tag
  | always _ => .always
  | when _ _ => .when
  | orWhen _ _ => .orWhen
  | otherwise _ => .otherwise

def content : Passage → Script.Content
  | always content | when _ content | orWhen _ content | otherwise content => content

/-- The comparisons of the condition; an unconditional passage has none. -/
def comparisons : Passage → List Comparison
  | when condition _ | orWhen condition _ => condition.comparisons
  | always _ | otherwise _ => []

end Passage

/-- The text in front of the first passage, and the passages, each with the text
behind it. -/
structure Script where
  lead : Script.Gap
  passages : List (Passage × Script.Gap)

/-! ## How a script is written -/

/-- The content as it is written. -/
def Script.Content.text (content : Script.Content) : List Char :=
  content.parts.flatMap Body.Part.text

/-- The block that the passage is written as. -/
def Passage.block : Passage → Block
  | always content => .always (String.ofList content.text)
  | when condition content =>
    .when (String.ofList condition.text) (String.ofList content.text)
  | orWhen condition content =>
    .orWhen (String.ofList condition.text) (String.ofList content.text)
  | otherwise content => .otherwise (String.ofList content.text)

/-- The template: the blocks of the passages, with the gaps around them. -/
def Script.text (script : Script) : String :=
  String.ofList (Block.weave script.lead.text
    (script.passages.map fun part => (part.1.block, part.2.text)))

/-! ## What a script means -/

/-- What sending a content comes to: its parts one after another, or the error of
the first one that has no value. -/
def Script.Content.sent (content : Script.Content) (scope : Scope) : Outcome :=
  match content.parts.mapM (Body.Part.filled scope.context) with
  | .ok texts => .rendered (String.ofList texts.flatten)
  | .error error => .failed (.expression error)

/-- A passage as a rendering in a scope sees it. -/
def Passage.view (scope : Scope) : BlockView Passage where
  tag := Passage.tag
  applies passage := Condition.judge passage.comparisons scope
  sent passage := passage.content.sent scope

/-! ## A written script is read back -/

namespace Passage

theorem tag_block (passage : Passage) : passage.block.tag = passage.tag := by
  cases passage <;> rfl

theorem body_block (passage : Passage) :
    passage.block.body = String.ofList passage.content.text := by
  cases passage <;> rfl

/-- A passage is written as a block that can be read back. -/
theorem printable_block (passage : Passage) : passage.block.Printable := by
  have hbody : cut? Block.closing passage.block.body.toList = none := by
    rw [body_block, String.toList_ofList, cut?_eq_none_iff (by decide)]
    exact passage.content.closing_free
  have hcondition (wording : Wording) : Trimmed (String.ofList wording.text).toList ∧
      (String.ofList wording.text).toList.all (fun c => !Block.isBracket c) = true := by
    rw [String.toList_ofList]
    exact ⟨wording.trimmed_text, wording.bracket_free⟩
  refine ⟨?_, hbody⟩
  cases passage with
  | always | otherwise => simp [block, Block.condition?]
  | when wording | orWhen wording =>
    intro condition hmem
    obtain rfl := Option.some.inj hmem
    exact hcondition wording

/-- A block that is read asks what its passage asks. -/
theorem applies_block (scope : Scope) (passage : Passage) :
    passage.block.applies scope = Condition.judge passage.comparisons scope := by
  cases passage with
  | always | otherwise => rfl
  | when wording | orWhen wording =>
    have hparse := wording.parse_text
    simp only [Block.applies, block, Block.condition?, Option.getD_some, hparse]
    rfl

/-- A block that is read sends what its passage sends. -/
theorem sent_block (scope : Scope) (passage : Passage) :
    passage.block.sent scope = passage.content.sent scope := by
  rw [Block.sent, Script.Content.sent, body_block, Script.Content.text, Body.fill_text]
  cases passage.content.parts.mapM (Body.Part.filled scope.context) <;> rfl

end Passage

namespace Script

/-- The blocks of a written script are its passages, in order. -/
theorem readAll_text (script : Script) :
    Block.readAll script.text = (script.passages.map Prod.fst).map Passage.block := by
  rw [text, Block.readAll_weave script.lead.bracket_free]
  · simp [Function.comp_def]
  · intro part hmem
    obtain ⟨passage, _, rfl⟩ := List.mem_map.mp hmem
    exact passage.1.printable_block
  · intro part hmem
    obtain ⟨passage, _, rfl⟩ := List.mem_map.mp hmem
    exact passage.2.bracket_free

/-- Where the passages of a script end, rendering what is written ends. -/
theorem render_text_of_ends {script : Script} {scope : Scope} {outcome : Outcome}
    (hends : Ends (Passage.view scope) (script.passages.map Prod.fst) outcome) :
    render script.text scope = outcome := by
  apply render_of_ends
  rw [readAll_text]
  exact @Ends.map _ _ (Passage.view scope) (Block.view scope) _ _ Passage.block Passage.tag_block
    (Passage.applies_block scope) (Passage.sent_block scope) hends

/-- Rendering a written script ends exactly as the script does: no text of one
level, gap, condition or body, is taken for the marks of another. -/
theorem render_text_iff_ends (script : Script) (scope : Scope) (outcome : Outcome) :
    render script.text scope = outcome ↔
      Ends (Passage.view scope) (script.passages.map Prod.fst) outcome := by
  constructor
  · intro hrender
    obtain ⟨ending, hending⟩ := Ends.exists (Passage.view scope) (script.passages.map Prod.fst)
    rw [← hrender, render_text_of_ends hending]
    exact hending
  · exact render_text_of_ends

example :
    (Script.mk ⟨"Hola".toList, by decide⟩
      [(.when
        ⟨⟨⟨⟨"ticket.a".toList, by decide, by decide, by decide⟩, by decide, by decide, by decide⟩,
          .changedTo, "CAMBIO A",
          ⟨⟨"1".toList, by decide, by decide, by decide⟩, by decide, by decide, by decide⟩,
          by decide⟩, []⟩
        ⟨[.words "Van ".toList (by decide),
          .value ⟨"ticket.a".toList, by decide, by decide, by decide⟩], by decide⟩,
        ⟨[], by decide⟩)]).text =
      "Hola[SI {{ticket.a}} CAMBIO A {{1}}]Van {{ticket.a}}[FIN]" := by
  decide

end Script

end Aviso
