/-!
# Scanning a text for what it holds

A reader recognises one thing at the front of a text, and may look at the
character before it.  `scan` walks a text from left to right: where the reader
finds something the scan goes on behind it, and anywhere else it passes one
character over.  So finds are leftmost and do not overlap.

* `finds` keeps the finds alone;
* `divide` keeps the texts between them.
-/

namespace Aviso.Text

/-- Recognises a thing at the front of a text, given the character before the
text, and returns it with the text behind it. -/
abbrev Reader (α : Type) := Option Char → List Char → Option (α × List Char)

/-- One step of a scan. -/
inductive Piece (α : Type) where
  /-- A character that is part of no find. -/
  | plain (c : Char)
  /-- Something that the reader found. -/
  | found (value : α)
deriving Repr, DecidableEq

/-- Scans the text behind `before`, the first `skip` characters of which belong
to the last find. -/
def scanFrom (read : Reader α) : Option Char → Nat → List Char → List (Piece α)
  | _, _, [] => []
  | _, skip + 1, c :: text => scanFrom read (some c) skip text
  | before, 0, c :: text =>
    match read before (c :: text) with
    | some (value, behind) =>
      .found value :: scanFrom read (some c) (text.length - behind.length) text
    | none => .plain c :: scanFrom read (some c) 0 text

/-- The pieces of a text, in order. -/
def scan (read : Reader α) (text : List Char) : List (Piece α) :=
  scanFrom read none 0 text

/-- The find that a piece is, if it is one. -/
def Piece.found? : Piece α → Option α
  | .plain _ => none
  | .found value => some value

/-- Everything that the reader finds in a text, in order. -/
def finds (read : Reader α) (text : List Char) : List α :=
  (scan read text).filterMap Piece.found?

/-- The text before the first find, and each find with the text that follows it. -/
def divide : List (Piece α) → List Char × List (α × List Char)
  | [] => ([], [])
  | .plain c :: pieces => (c :: (divide pieces).1, (divide pieces).2)
  | .found value :: pieces => ([], (value, (divide pieces).1) :: (divide pieces).2)

/-! ## Where a scan goes on -/

/-- The last character of the text, or what stands before it. -/
def lastOf (before : Option Char) : List Char → Option Char
  | [] => before
  | c :: text => lastOf (some c) text

theorem scanFrom_skip (read : Reader α) (before : Option Char) (skipped text : List Char) :
    scanFrom read before skipped.length (skipped ++ text) =
      scanFrom read (lastOf before skipped) 0 text := by
  induction skipped generalizing before with
  | nil => rfl
  | cons c skipped ih => simpa [scanFrom, lastOf] using ih (some c)

/-- Behind a find the scan goes on at the text that the reader left. -/
theorem scanFrom_of_found {read : Reader α} {before : Option Char} {c : Char}
    {taken behind : List Char} {value : α}
    (found : read before (c :: (taken ++ behind)) = some (value, behind)) :
    scanFrom read before 0 (c :: (taken ++ behind)) =
      .found value :: scanFrom read (lastOf (some c) taken) 0 behind := by
  rw [scanFrom, found]
  simp only [List.length_append, Nat.add_sub_cancel]
  rw [scanFrom_skip]

theorem scanFrom_of_none {read : Reader α} {before : Option Char} {c : Char} {text : List Char}
    (missing : read before (c :: text) = none) :
    scanFrom read before 0 (c :: text) = .plain c :: scanFrom read (some c) 0 text := by
  rw [scanFrom, missing]

end Aviso.Text
