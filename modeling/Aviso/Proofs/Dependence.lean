import Aviso.Proofs.Results
import Aviso.Proofs.Selection

/-!
# What a rendering depends on

Two renderings are compared here.  They end alike, with the same text or the same
error, as long as they differ in nothing that a template can see.

* The `_congr` lemmas go up from the path to the block: each of these looks at a
  context through the five roots only.  Apart from the context, only a question
  about the past looks at the event and the entity.
* `render_eq_of_same_roots`: so a rendering depends on what stands under the roots
  and, if a condition of the template asks what the ticket was before, on whether
  there is a past.
* `render_eq_of_same_kinds`: of the order of the blocks it depends on the order
  within each kind, and not on how the kinds are mixed.
-/

namespace Aviso

open Json

/-! ## What is seen of a context -/

section Context

variable {context other : Context} (hroots : ∀ root, context.get? root = other.get? root)

include hroots

theorem Context.ticketBefore?_congr : context.ticketBefore? = other.ticketBefore? := by
  rw [Context.ticketBefore?, Context.ticketBefore?, hroots]

theorem Path.value_congr (path : List Char) : Path.value path context = Path.value path other := by
  simp only [Path.value, hroots]

theorem Expression.value_congr (expression : List Char) :
    Expression.value expression context = Expression.value expression other := by
  simp only [Expression.value, Path.value_congr hroots]

theorem Body.fill_congr (body : String) : Body.fill body context = Body.fill body other := by
  have hfilled : ∀ piece ∈ Body.pieces body.toList,
      Body.filled context piece = Body.filled other piece := by
    intro piece _
    cases piece with
    | plain c => rfl
    | found expression => rw [Body.filled, Body.filled, Expression.value_congr hroots]
  rw [Body.fill, Body.fill, mapM_congr hfilled]

theorem operandValue_congr (expression : String) :
    operandValue expression context = operandValue expression other := by
  rw [operandValue, operandValue, Expression.value_congr hroots]

theorem Comparator.compare_congr (comparator : Comparator) (left right : Value) :
    comparator.compare context left right = comparator.compare other left right := by
  cases comparator with
  | changedTo | changedIs => simp only [Comparator.compare, Context.ticketBefore?_congr hroots]
  | equal | notEqual | blankIs | contains | startsWith | endsWith => rfl

end Context

/-! ## What is seen of a scope -/

/-- Whether the block has a condition that can be read and asks what the ticket was
before. -/
def Block.asksPast (block : Block) : Bool :=
  match block.condition?.map Condition.parse with
  | some (.ok comparisons) => comparisons.any fun comparison => comparison.comparator.asksPast
  | some (.error _) | none => false

section Scope

variable {scope other : Scope}
  (hroots : ∀ root, scope.context.get? root = other.context.get? root)

include hroots

theorem Comparison.judge_congr {comparison : Comparison}
    (hpast : comparison.comparator.asksPast = true → scope.hasPast = other.hasPast) :
    comparison.judge scope = comparison.judge other := by
  have hgate : (comparison.comparator.asksPast && !scope.hasPast) =
      (comparison.comparator.asksPast && !other.hasPast) := by
    cases hasks : comparison.comparator.asksPast with
    | false => rfl
    | true => rw [hpast hasks]
  simp only [Comparison.judge, hgate, operandValue_congr hroots, Comparator.compare_congr hroots]

theorem Condition.judge_congr {comparisons : List Comparison}
    (hpast : ∀ comparison ∈ comparisons, comparison.comparator.asksPast = true →
      scope.hasPast = other.hasPast) :
    Condition.judge comparisons scope = Condition.judge comparisons other := by
  have hjudge : ∀ comparison ∈ comparisons, comparison.judge scope = comparison.judge other :=
    fun comparison hmem => Comparison.judge_congr hroots (hpast comparison hmem)
  rw [Condition.judge, Condition.judge, mapM_congr hjudge]

/-- A condition that cannot be read is the same error in both scopes. -/
theorem Block.applies_congr {block : Block}
    (hpast : block.asksPast = true → scope.hasPast = other.hasPast) :
    block.applies scope = block.applies other := by
  rw [Block.applies, Block.applies]
  cases hcondition : block.condition? with
  | none => rfl
  | some condition =>
    rw [Option.getD_some]
    cases hparse : Condition.parse condition with
    | error error => rfl
    | ok comparisons =>
      have hasks : block.asksPast =
          comparisons.any fun comparison => comparison.comparator.asksPast := by
        rw [Block.asksPast, hcondition, Option.map_some, hparse]
      have hjudge : Condition.judge comparisons scope = Condition.judge comparisons other := by
        apply Condition.judge_congr hroots
        intro comparison hmem hcomparison
        apply hpast
        rw [hasks]
        exact List.any_eq_true.mpr ⟨comparison, hmem, hcomparison⟩
      exact hjudge

theorem Block.sent_congr (block : Block) : block.sent scope = block.sent other := by
  rw [Block.sent, Block.sent, Body.fill_congr hroots]

end Scope

/-! ## Two renderings of one template -/

/-- A rendering sees of a context what stands under the five roots, and nothing
else that the context holds.  It sees of the event and the entity whether the
ticket has a past, and that only if a condition that can be read asks for it. -/
theorem render_eq_of_same_roots (template : String) {scope other : Scope}
    (hroots : ∀ root, scope.context.get? root = other.context.get? root)
    (hpast : (∃ block ∈ Block.readAll template, block.asksPast = true) →
      scope.hasPast = other.hasPast) :
    render template scope = render template other := by
  obtain ⟨outcome, hends⟩ := Ends.exists (Block.view scope) (Block.readAll template)
  have hseen : ∀ block ∈ (Block.view scope).asked (Block.readAll template),
      block.applies other = block.applies scope := by
    intro block hmem
    have happlies : block.applies scope = block.applies other := by
      apply Block.applies_congr hroots
      intro hasks
      exact hpast ⟨block, BlockView.mem_of_mem_asked hmem, hasks⟩
    exact happlies.symm
  have hsent : ∀ block, Block.sent other block = Block.sent scope block :=
    fun block => (Block.sent_congr hroots block).symm
  have hother : Ends (Block.view other) (Block.readAll template) outcome := by
    refine hends.transfer id ?_ ?_ hseen hsent
    · intro tag
      rw [Option.map_id, id_eq]
      rfl
    · rw [List.map_id]
      rfl
  rw [render_of_ends hends, render_of_ends hother]

/-- A greeting to the client sees neither the rest of the context nor what happened. -/
theorem render_eq_of_same_roots_greeting :
    let client : Members := [("cliente", .object [("nombre", .string "Ana")])]
    let extra : Members := [("otro", .null)]
    let scope : Scope := ⟨{ members := client }, none, none⟩
    let other : Scope := ⟨{ members := client ++ extra }, some .modification, some .ticket⟩
    let template := "[SI {{cliente.nombre}} ES IGUAL QUE 'Ana']Hola {{cliente.nombre}}[FIN]"
    (∀ root, scope.context.get? root = other.context.get? root) ∧
      scope.hasPast ≠ other.hasPast ∧
      ¬ (∃ block ∈ Block.readAll template, block.asksPast = true) ∧
      render template scope = render template other := by
  intro client extra scope other template
  have hroots : ∀ root, scope.context.get? root = other.context.get? root := by
    intro root
    cases root <;> rfl
  have hasks : ¬ (∃ block ∈ Block.readAll template, block.asksPast = true) := by
    decide +kernel
  exact ⟨hroots, by decide, hasks,
    render_eq_of_same_roots template hroots fun hpast => absurd hpast hasks⟩

/-! ## Two templates with the same blocks of each kind -/

/-- How blocks end does not depend on how those of different kinds are mixed. -/
theorem Ends.of_same_kinds {β : Type} {view : BlockView β} {blocks others : List β}
    {outcome : Outcome}
    (hsame : ∀ tag, blocks.filter (fun block => view.tag block == tag) =
      others.filter fun block => view.tag block == tag)
    (hends : Ends view blocks outcome) : Ends view others outcome := by
  have hfirst (tag : Tag) : view.first tag others = view.first tag blocks := by
    rw [BlockView.first, BlockView.first, ← List.head?_filter, ← List.head?_filter, hsame]
  have hasked : view.asked others = view.asked blocks := by
    rw [BlockView.asked, BlockView.asked, hfirst, hsame]
  refine hends.transfer id ?_ ?_ (fun _ _ => rfl) fun _ => rfl
  · intro tag
    rw [hfirst, Option.map_id, id_eq]
  · rw [hasked, List.map_id]

/-- Templates that hold the same blocks of each kind in the same order are rendered
alike, however the kinds are mixed: an error of one rendering is the error of the
other. -/
theorem render_eq_of_same_kinds {template other : String}
    (hsame : ∀ tag, blocksOf tag (Block.readAll template) = blocksOf tag (Block.readAll other))
    (scope : Scope) : render template scope = render other scope := by
  obtain ⟨outcome, hends⟩ := Ends.exists (Block.view scope) (Block.readAll template)
  have hother : Ends (Block.view scope) (Block.readAll other) outcome :=
    hends.of_same_kinds hsame
  rw [render_of_ends hends, render_of_ends hother]

/-- The last resort may stand first. -/
theorem render_eq_of_same_kinds_otherwise :
    let last := "[SINO]c[FIN]"
    let first := "[SI {{1}} ES IGUAL QUE {{2}}]a[FIN]"
    let second := "[SINO PERO {{1}} ES IGUAL QUE {{1}}]b[FIN]"
    let scope : Scope := ⟨{}, none, none⟩
    Block.readAll (last ++ second ++ first) ≠ Block.readAll (first ++ second ++ last) ∧
      (∀ tag, blocksOf tag (Block.readAll (last ++ second ++ first)) =
        blocksOf tag (Block.readAll (first ++ second ++ last))) ∧
      render (last ++ second ++ first) scope = render (first ++ second ++ last) scope := by
  intro last first second scope
  have hsame : ∀ tag, blocksOf tag (Block.readAll (last ++ second ++ first)) =
      blocksOf tag (Block.readAll (first ++ second ++ last)) := by
    intro tag
    cases tag <;> decide +kernel
  exact ⟨by decide +kernel, hsame, render_eq_of_same_kinds hsame scope⟩

end Aviso
