import Aviso.Block
import Aviso.Body
import Aviso.Condition.Parse
import Aviso.Condition.Verdict

/-!
# Rendering a template

Exactly one block of a template is sent: an unconditional one; else the first
block of the kind `when`, if its condition holds; else the first block of the
kind `orWhen` whose condition holds; else the last resort.  Only the body of that
block is filled in, and conditions behind the one that holds are not read.

* `candidates` are the blocks whose conditions are asked, in that order;
* `choose` is the block that is sent;
* `render` fills it in.
-/

namespace Aviso

/-- What becomes of a rendering. -/
inductive Outcome where
  | rendered (text : String)
  /-- No block applies. -/
  | noMatch
  /-- The template or the context is broken. -/
  | failed (failure : Failure)
deriving Repr, DecidableEq

namespace Outcome

def text? : Outcome → Option String
  | rendered text => some text
  | noMatch | failed _ => none

def isFailed : Outcome → Bool
  | failed _ => true
  | rendered _ | noMatch => false

end Outcome

/-- Whether the condition of a block holds. -/
def Block.applies (scope : Scope) (block : Block) : Except Failure Bool := do
  let comparisons ← (Condition.parse (block.condition?.getD "")).mapError Failure.condition
  Condition.judge comparisons scope

/-- The first block whose condition holds; an error before it is the error. -/
def firstToApply (scope : Scope) : List Block → Except Failure (Option Block)
  | [] => .ok none
  | block :: blocks => do
    let applies ← block.applies scope
    if applies then .ok (some block) else firstToApply scope blocks

/-- The blocks of one kind, in order. -/
def blocksOf (tag : Tag) (blocks : List Block) : List Block :=
  blocks.filter fun block => block.tag == tag

/-- The blocks whose conditions are asked, in the order in which they are. -/
def candidates (blocks : List Block) : List Block :=
  (blocksOf .when blocks).take 1 ++ blocksOf .orWhen blocks

/-- The block that is sent. -/
def choose (scope : Scope) (blocks : List Block) : Except Failure (Option Block) :=
  match (blocksOf .always blocks).head? with
  | some block => .ok (some block)
  | none => do
    let applying ← firstToApply scope (candidates blocks)
    return applying <|> (blocksOf .otherwise blocks).head?

/-- The body of the block that is sent, filled in. -/
def renderBlocks (scope : Scope) (blocks : List Block) : Except Failure (Option String) := do
  match ← choose scope blocks with
  | none => return none
  | some block =>
    let text ← (Body.fill block.body scope.context).mapError Failure.expression
    return some text

/-- Renders a template. -/
def render (template : String) (scope : Scope) : Outcome :=
  match renderBlocks scope (Block.readAll template) with
  | .ok (some text) => .rendered text
  | .ok none => .noMatch
  | .error failure => .failed failure

end Aviso
