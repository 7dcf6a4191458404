import Aviso.Render

/-!
# Which block is sent

`Ends` says how a rendering ends, by the blocks of a template alone: which block
decides, what has to be true of the blocks that are asked before it, and nothing
of the blocks behind it.  It speaks of blocks of any form, through a `BlockView`,
so that it also serves as the meaning of blocks that are not read from a text.

* `Ends.exists`: every list of blocks ends in some way.
* `Ends.transfer`: how blocks end depends on the first one of each kind and on those
  that are asked, so that other blocks that agree there end alike.
* `render_of_ends`: a rendering ends as `Ends` says.
* `render_eq_iff_ends` puts the two together, says when no block matches, and
  says that templates that agree up to the deciding block end alike.
-/

namespace Aviso

/-- What the choice among blocks sees of one: its kind, the verdict on its
condition, and what sending it comes to. -/
structure BlockView (β : Type) where
  tag : β → Tag
  applies : β → Except Failure Bool
  sent : β → Outcome

namespace BlockView

variable {β : Type} (view : BlockView β)

/-- The first block of a kind. -/
def first (tag : Tag) (blocks : List β) : Option β :=
  blocks.find? fun block => view.tag block == tag

/-- The blocks whose conditions are asked, in the order in which they are: the
first one of the kind `when`, wherever it stands, then every one of the kind
`orWhen`. -/
def asked (blocks : List β) : List β :=
  (view.first .when blocks).toList ++ blocks.filter fun block => view.tag block == .orWhen

variable {view} in
theorem mem_of_mem_asked {blocks : List β} {block : β} (hmem : block ∈ view.asked blocks) :
    block ∈ blocks := by
  rcases List.mem_append.mp hmem with hmem | hmem
  · exact List.mem_of_find?_eq_some (Option.mem_toList.mp hmem)
  · exact (List.mem_filter.mp hmem).1

end BlockView

/-- How a rendering of blocks ends. -/
inductive Ends {β : Type} (view : BlockView β) (blocks : List β) : Outcome → Prop where
  /-- An unconditional block is sent, whatever the other blocks are. -/
  | always {block} (hfirst : view.first .always blocks = some block) :
      Ends view blocks (view.sent block)
  /-- The first condition that is not false is an error.  Nothing is said of the
  blocks behind it. -/
  | failed {passed block later failure}
      (hnone : view.first .always blocks = none)
      (hasked : view.asked blocks = passed ++ block :: later)
      (hpassed : ∀ earlier ∈ passed, view.applies earlier = .ok false)
      (hfails : view.applies block = .error failure) :
      Ends view blocks (.failed failure)
  /-- The first condition that is not false holds. -/
  | holds {passed block later}
      (hnone : view.first .always blocks = none)
      (hasked : view.asked blocks = passed ++ block :: later)
      (hpassed : ∀ earlier ∈ passed, view.applies earlier = .ok false)
      (hholds : view.applies block = .ok true) :
      Ends view blocks (view.sent block)
  /-- Every condition is false, and there is a last resort. -/
  | otherwise {block}
      (hnone : view.first .always blocks = none)
      (hpassed : ∀ earlier ∈ view.asked blocks, view.applies earlier = .ok false)
      (hlast : view.first .otherwise blocks = some block) :
      Ends view blocks (view.sent block)
  /-- Every condition is false, and there is no last resort. -/
  | noMatch
      (hnone : view.first .always blocks = none)
      (hpassed : ∀ earlier ∈ view.asked blocks, view.applies earlier = .ok false)
      (hlast : view.first .otherwise blocks = none) :
      Ends view blocks .noMatch

/-! ## Every list of blocks ends -/

/-- Of blocks that are asked in turn either every condition is false, or there is
a first one that is not. -/
theorem forall_or_first {β : Type} (applies : β → Except Failure Bool) (blocks : List β) :
    (∀ block ∈ blocks, applies block = .ok false) ∨
      ∃ passed block later, blocks = passed ++ block :: later ∧
        (∀ earlier ∈ passed, applies earlier = .ok false) ∧ applies block ≠ .ok false := by
  induction blocks with
  | nil => exact .inl (by simp)
  | cons block blocks ih =>
    by_cases hfalse : applies block = .ok false
    · rcases ih with hall | ⟨passed, deciding, later, rfl, hpassed, hdeciding⟩
      · exact .inl (List.forall_mem_cons.mpr ⟨hfalse, hall⟩)
      · exact .inr ⟨block :: passed, deciding, later, rfl,
          List.forall_mem_cons.mpr ⟨hfalse, hpassed⟩, hdeciding⟩
    · exact .inr ⟨[], block, blocks, rfl, by simp, hfalse⟩

theorem Ends.exists {β : Type} (view : BlockView β) (blocks : List β) :
    ∃ outcome, Ends view blocks outcome := by
  cases hfirst : view.first .always blocks with
  | some block => exact ⟨_, .always hfirst⟩
  | none =>
    rcases forall_or_first view.applies (view.asked blocks) with
      hall | ⟨passed, block, later, hasked, hpassed, hblock⟩
    · cases hlast : view.first .otherwise blocks with
      | some block => exact ⟨_, .otherwise hfirst hall hlast⟩
      | none => exact ⟨_, .noMatch hfirst hall hlast⟩
    · cases happlies : view.applies block with
      | error failure => exact ⟨_, .failed hfirst hasked hpassed happlies⟩
      | ok verdict =>
        cases verdict with
        | false => exact absurd happlies hblock
        | true => exact ⟨_, .holds hfirst hasked hpassed happlies⟩

/-- Only blocks without an unconditional one, a last resort and a condition that
is an error or holds end without a match. -/
theorem Ends.noMatch_inv {β : Type} {view : BlockView β} {blocks : List β} {outcome : Outcome}
    (hends : Ends view blocks outcome) (hsent : ∀ block, view.sent block ≠ .noMatch)
    (hnoMatch : outcome = .noMatch) :
    view.first .always blocks = none ∧ view.first .otherwise blocks = none ∧
      ∀ block ∈ view.asked blocks, view.applies block = .ok false := by
  cases hends with
  | always | holds | otherwise => exact absurd hnoMatch (hsent _)
  | failed => exact absurd hnoMatch (by simp)
  | noMatch hnone hpassed hlast => exact ⟨hnone, hlast, hpassed⟩

/-- Two lists of blocks end alike if the same blocks of them decide and are asked,
and these are seen alike. -/
theorem Ends.transfer {β γ : Type} {view : BlockView β} {other : BlockView γ} {blocks : List β}
    {others : List γ} {outcome : Outcome} (f : β → γ)
    (hfirst : ∀ tag, other.first tag others = (view.first tag blocks).map f)
    (hasked : other.asked others = (view.asked blocks).map f)
    (happlies : ∀ block ∈ view.asked blocks, other.applies (f block) = view.applies block)
    (hsent : ∀ block, other.sent (f block) = view.sent block)
    (hends : Ends view blocks outcome) : Ends other others outcome := by
  have hdivided {passed later : List β} {block : β}
      (hsplit : view.asked blocks = passed ++ block :: later) :
      other.asked others = passed.map f ++ f block :: later.map f ∧
        block ∈ view.asked blocks ∧ passed ⊆ view.asked blocks := by
    rw [hasked, hsplit]
    simp
  have hpassed {passed : List β} (hsub : passed ⊆ view.asked blocks)
      (hfalse : ∀ earlier ∈ passed, view.applies earlier = .ok false) :
      ∀ earlier ∈ passed.map f, other.applies earlier = .ok false := by
    rintro _ hmem
    obtain ⟨earlier, hearlier, rfl⟩ := List.mem_map.mp hmem
    rw [happlies earlier (hsub hearlier), hfalse earlier hearlier]
  have hall (hbefore : ∀ earlier ∈ view.asked blocks, view.applies earlier = .ok false) :
      ∀ earlier ∈ other.asked others, other.applies earlier = .ok false := by
    rw [hasked]
    exact hpassed (List.Subset.refl _) hbefore
  cases hends with
  | always hblock =>
    rw [← hsent]
    exact .always (by rw [hfirst, hblock]; rfl)
  | failed hnone hsplit hbefore hfails =>
    obtain ⟨hsplit, hmem, hsub⟩ := hdivided hsplit
    exact .failed (by rw [hfirst, hnone]; rfl) hsplit (hpassed hsub hbefore)
      (by rw [happlies _ hmem, hfails])
  | holds hnone hsplit hbefore hholds =>
    obtain ⟨hsplit, hmem, hsub⟩ := hdivided hsplit
    rw [← hsent]
    exact .holds (by rw [hfirst, hnone]; rfl) hsplit (hpassed hsub hbefore)
      (by rw [happlies _ hmem, hholds])
  | otherwise hnone hbefore hlast =>
    rw [← hsent]
    exact .otherwise (by rw [hfirst, hnone]; rfl) (hall hbefore) (by rw [hfirst, hlast]; rfl)
  | noMatch hnone hbefore hlast =>
    exact .noMatch (by rw [hfirst, hnone]; rfl) (hall hbefore) (by rw [hfirst, hlast]; rfl)

/-- Blocks that are seen alike end alike. -/
theorem Ends.map {β γ : Type} {view : BlockView β} {other : BlockView γ} {blocks : List β}
    {outcome : Outcome} (f : β → γ) (htag : ∀ block, other.tag (f block) = view.tag block)
    (happlies : ∀ block, other.applies (f block) = view.applies block)
    (hsent : ∀ block, other.sent (f block) = view.sent block)
    (hends : Ends view blocks outcome) : Ends other (blocks.map f) outcome := by
  have hfirst (tag : Tag) : other.first tag (blocks.map f) = (view.first tag blocks).map f := by
    rw [BlockView.first, BlockView.first, List.find?_map]
    simp only [Function.comp_def, htag]
  have hasked : other.asked (blocks.map f) = (view.asked blocks).map f := by
    rw [BlockView.asked, hfirst, Option.toList_map, List.filter_map, BlockView.asked,
      List.map_append]
    simp only [Function.comp_def, htag]
  exact hends.transfer f hfirst hasked (fun block _ => happlies block) hsent

/-! ## The blocks of a template -/

/-- What sending a block comes to: its body filled in, or the error of the first
expression that has no value. -/
def Block.sent (scope : Scope) (block : Block) : Outcome :=
  match Body.fill block.body scope.context with
  | .ok text => .rendered text
  | .error error => .failed (.expression error)

/-- A block as a rendering in a scope sees it. -/
def Block.view (scope : Scope) : BlockView Block where
  tag := Block.tag
  applies := Block.applies scope
  sent := Block.sent scope

theorem Block.sent_ne_noMatch (scope : Scope) (block : Block) : block.sent scope ≠ .noMatch := by
  unfold Block.sent
  split <;> simp

theorem head?_blocksOf (scope : Scope) (tag : Tag) (blocks : List Block) :
    (blocksOf tag blocks).head? = (Block.view scope).first tag blocks :=
  List.head?_filter

theorem candidates_eq_asked (scope : Scope) (blocks : List Block) :
    candidates blocks = (Block.view scope).asked blocks := by
  have htake : (blocksOf .when blocks).take 1 = ((Block.view scope).first .when blocks).toList := by
    rw [← head?_blocksOf]
    cases blocksOf .when blocks <;> rfl
  rw [candidates, htake]
  rfl

theorem firstToApply_of_forall {scope : Scope} {blocks : List Block}
    (hfalse : ∀ block ∈ blocks, block.applies scope = .ok false) :
    firstToApply scope blocks = .ok none := by
  induction blocks with
  | nil => rfl
  | cons block blocks ih =>
    obtain ⟨hblock, hblocks⟩ := List.forall_mem_cons.mp hfalse
    rw [firstToApply, hblock]
    exact ih hblocks

/-- Blocks whose conditions are false are passed over. -/
theorem firstToApply_append {scope : Scope} {passed : List Block}
    (hpassed : ∀ block ∈ passed, block.applies scope = .ok false) (later : List Block) :
    firstToApply scope (passed ++ later) = firstToApply scope later := by
  induction passed with
  | nil => rfl
  | cons block passed ih =>
    obtain ⟨hblock, hrest⟩ := List.forall_mem_cons.mp hpassed
    rw [List.cons_append, firstToApply, hblock]
    exact ih hrest

/-- A chosen block is sent. -/
theorem render_of_choose {template : String} {scope : Scope} {block : Block}
    (hchoose : choose scope (Block.readAll template) = .ok (some block)) :
    render template scope = block.sent scope := by
  rw [render, renderBlocks, hchoose, Block.sent]
  cases hfill : Body.fill block.body scope.context with
  | ok text =>
    simp only [bind, Except.bind, hfill]
    rfl
  | error error =>
    simp only [bind, Except.bind, hfill]
    rfl

/-- A rendering ends as its blocks say. -/
theorem render_of_ends {template : String} {scope : Scope} {outcome : Outcome}
    (hends : Ends (Block.view scope) (Block.readAll template) outcome) :
    render template scope = outcome := by
  cases hends with
  | always hfirst =>
    apply render_of_choose
    rw [choose, head?_blocksOf scope, hfirst]
  | @failed passed block later failure hnone hasked hpassed hfails =>
    have happly : block.applies scope = .error failure := hfails
    have hchoose : choose scope (Block.readAll template) = .error failure := by
      rw [choose, head?_blocksOf scope, hnone, candidates_eq_asked scope, hasked,
        firstToApply_append hpassed, firstToApply, happly]
      rfl
    rw [render, renderBlocks, hchoose]
    rfl
  | @holds passed block later hnone hasked hpassed hholds =>
    have happly : block.applies scope = .ok true := hholds
    apply render_of_choose
    rw [choose, head?_blocksOf scope, hnone, candidates_eq_asked scope, hasked,
      firstToApply_append hpassed, firstToApply, happly]
    rfl
  | otherwise hnone hpassed hlast =>
    apply render_of_choose
    rw [choose, head?_blocksOf scope, hnone, candidates_eq_asked scope,
      firstToApply_of_forall hpassed, head?_blocksOf scope, hlast]
    rfl
  | noMatch hnone hpassed hlast =>
    have hchoose : choose scope (Block.readAll template) = .ok none := by
      rw [choose, head?_blocksOf scope, hnone, candidates_eq_asked scope,
        firstToApply_of_forall hpassed, head?_blocksOf scope, hlast]
      rfl
    rw [render, renderBlocks, hchoose]
    rfl

/-- A rendering ends exactly as `Ends` says.  So it ends without a match only
where no block is unconditional or a last resort and every condition that is
asked is false, and what stands behind the deciding block plays no part: another
template with the same deciding block ends alike. -/
theorem render_eq_iff_ends (template : String) (scope : Scope) :
    let view := Block.view scope
    let blocks := Block.readAll template
    (∀ outcome, render template scope = outcome ↔ Ends view blocks outcome) ∧
    (render template scope = .noMatch ↔
      view.first .always blocks = none ∧ view.first .otherwise blocks = none ∧
        ∀ block ∈ view.asked blocks, block.applies scope = .ok false) ∧
    (∀ other block, view.first .always blocks = some block →
      view.first .always (Block.readAll other) = some block →
      render other scope = render template scope) ∧
    (∀ other passed block later later', view.first .always blocks = none →
      view.first .always (Block.readAll other) = none →
      view.asked blocks = passed ++ block :: later →
      view.asked (Block.readAll other) = passed ++ block :: later' →
      (∀ earlier ∈ passed, earlier.applies scope = .ok false) →
      block.applies scope ≠ .ok false →
      render other scope = render template scope) := by
  intro view blocks
  have hends : ∀ outcome, render template scope = outcome ↔ Ends view blocks outcome := by
    intro outcome
    constructor
    · intro hrender
      obtain ⟨ending, hending⟩ := Ends.exists view blocks
      rw [← hrender, render_of_ends hending]
      exact hending
    · exact render_of_ends
  refine ⟨hends, ?_, ?_, ?_⟩
  · constructor
    · intro hrender
      exact ((hends _).mp hrender).noMatch_inv (Block.sent_ne_noMatch scope) rfl
    · intro hall
      rcases hall with ⟨hnone, hlast, hfalse⟩
      exact (hends _).mpr (.noMatch hnone hfalse hlast)
  · intro other block hfirst hother
    rw [(hends _).mpr (.always hfirst)]
    exact render_of_ends (.always hother)
  · intro other passed block later later' hnone hother hasked hasked' hpassed hblock
    cases happlies : block.applies scope with
    | error failure =>
      rw [(hends _).mpr (.failed hnone hasked hpassed happlies)]
      exact render_of_ends (.failed hother hasked' hpassed happlies)
    | ok verdict =>
      cases verdict with
      | false => exact absurd happlies hblock
      | true =>
        rw [(hends _).mpr (.holds hnone hasked hpassed happlies)]
        exact render_of_ends (.holds hother hasked' hpassed happlies)

end Aviso
