import Aviso.Text.Blank
import Aviso.Text.Cut
import Aviso.Text.Scan

/-!
# Blocks of a template

A template is a sequence of blocks, each a tag in brackets, a body and the
closing tag.  Text that belongs to no complete block is ignored.

* `Tag` and `Block` are the four kinds of blocks;
* `Block.readAll` finds the blocks of a template, in the order of the text;
* `Block.print` writes a block, and `Block.Printable` says of which blocks
  splitting finds exactly what was written.
-/

namespace Aviso

open Text

/-- What an opening tag says about its block. -/
inductive Tag where
  /-- The block is sent whatever the context holds. -/
  | always
  /-- The block is sent when its condition holds. -/
  | when
  /-- The block is sent when its condition is the first one to hold. -/
  | orWhen
  /-- The block is sent when no condition holds. -/
  | otherwise
deriving Repr, DecidableEq

namespace Tag

/-- The word that opens the tag. -/
def keyword : Tag → String
  | always => "BASE"
  | when => "SI"
  | orWhen => "SINO PERO"
  | otherwise => "SINO"

/-- The tags with their words.  A word stands before every word that begins it,
so the first word that fits is the longest. -/
def byKeyword : List (List Char × Tag) :=
  [orWhen, otherwise, when, always].map fun tag => (tag.keyword.toList, tag)

end Tag

/-- A block of a template; only the conditional kinds hold a condition. -/
inductive Block where
  | always (body : String)
  | when (condition body : String)
  | orWhen (condition body : String)
  | otherwise (body : String)
deriving Repr, DecidableEq

namespace Block

def tag : Block → Tag
  | always _ => .always
  | when _ _ => .when
  | orWhen _ _ => .orWhen
  | otherwise _ => .otherwise

def body : Block → String
  | always body | when _ body | orWhen _ body | otherwise body => body

/-- The condition of a block of a conditional kind. -/
def condition? : Block → Option String
  | when condition _ | orWhen condition _ => some condition
  | always _ | otherwise _ => none

/-! ## Splitting a template -/

/-- The tag that ends every block. -/
def closing : List Char := "[FIN]".toList

/-- A bracket, which no opening tag holds inside. -/
def isBracket (c : Char) : Bool :=
  c == '[' || c == ']'

/-- The block that a tag word, the rest of the tag and a body make.  A tag of an
unconditional kind holds nothing else; in a conditional one a blank divides the
word from the condition. -/
def ofParts? (tag : Tag) (tail body : List Char) : Option Block :=
  let condition := String.ofList (trim tail)
  let body := String.ofList body
  match tag with
  | .always => if (trim tail).isEmpty then some (.always body) else none
  | .otherwise => if (trim tail).isEmpty then some (.otherwise body) else none
  | .when => if tail.isEmpty || startsBlank tail then some (.when condition body) else none
  | .orWhen => if tail.isEmpty || startsBlank tail then some (.orWhen condition body) else none

/-- Reads a tag, a body and the nearest closing tag.  A tag that is not well
formed still takes its body with it, and makes no block. -/
def read : Reader (Option Block)
  | _, '[' :: text => do
    let (tag, text) ← afterAny? Tag.byKeyword text
    let tail := text.takeWhile fun c => !isBracket c
    let text ← after? [']'] (text.dropWhile fun c => !isBracket c)
    let (body, behind) ← cut? closing text
    return (ofParts? tag tail body, behind)
  | _, _ => none

/-- The blocks of a template, in the order of the text. -/
def readAll (template : String) : List Block :=
  (finds read template.toList).filterMap id

/-! ## Writing a block -/

/-- What stands between the brackets of the opening tag. -/
def opening (block : Block) : List Char :=
  match block.condition? with
  | none => block.tag.keyword.toList
  | some condition =>
    if condition.isEmpty then block.tag.keyword.toList
    else block.tag.keyword.toList ++ ' ' :: condition.toList

/-- The block as a template holds it. -/
def print (block : Block) : String :=
  String.ofList ('[' :: block.opening ++ ']' :: block.body.toList ++ closing)

/-- A block that can be read back: the condition is trimmed and free of
brackets, and the body does not hold the closing tag. -/
def Printable (block : Block) : Prop :=
  (∀ condition ∈ block.condition?,
    Trimmed condition.toList ∧ condition.toList.all (fun c => !isBracket c) = true) ∧
  cut? closing block.body.toList = none

end Block

end Aviso
