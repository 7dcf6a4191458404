import Aviso.Text.Digits
import Aviso.Text.Quoted

/-!
# Versions

A version is three numbers, a pre-release and build metadata, the last two lists
of identifiers.  `Version.parse` reads the text of one and says what is wrong with
any other text.  `Version.compare` is a total order, which refines that of
precedence, `Version.comparePrecedence`.

A version with a pre-release comes before the one without it, and build metadata
comes after none.  Identifiers compare in turn: two of digits only by their values,
then by their lengths, and one of digits only comes before any other.
-/

namespace Aviso

structure Version where
  major : Nat
  minor : Nat
  patch : Nat
  preRelease : List String := []
  build : List String := []
deriving Repr, DecidableEq

namespace Version

/-- A part of the text of a version. -/
inductive Part where
  | major
  | minor
  | patch
  | preRelease
  | build
deriving Repr, DecidableEq

def Part.name : Part → String
  | major => "major version number"
  | minor => "minor version number"
  | patch => "patch version number"
  | preRelease => "pre-release identifier"
  | build => "build metadata"

end Version

/-- Why a text is no version. -/
inductive VersionError where
  | empty
  /-- The text ends where the part goes on. -/
  | unexpectedEnd (part : Version.Part)
  /-- No number begins with the character. -/
  | unexpectedChar (part : Version.Part) (c : Char)
  | unexpectedCharAfter (part : Version.Part) (c : Char)
  | leadingZero (part : Version.Part)
  /-- The number does not fit 64 bits. -/
  | tooLarge (part : Version.Part)
  | emptyIdentifier (part : Version.Part)
deriving Repr, DecidableEq

def VersionError.message : VersionError → String
  | empty => "empty string, expected a semver version"
  | unexpectedEnd part => "unexpected end of input while parsing " ++ part.name
  | unexpectedChar part c =>
    "unexpected character " ++ Text.quotedChar c ++ " while parsing " ++ part.name
  | unexpectedCharAfter part c =>
    "unexpected character " ++ Text.quotedChar c ++ " after " ++ part.name
  | leadingZero part => "invalid leading zero in " ++ part.name
  | tooLarge part => "value of " ++ part.name ++ " exceeds u64::MAX"
  | emptyIdentifier part => "empty identifier segment in " ++ part.name

namespace Version

/-! ## Reading -/

/-- Whether digits begin with a zero that is not all of them. -/
def hasLeadingZero (digits : List Char) : Bool :=
  digits.head? == some '0' && digits.length ≠ 1

/-- The number of a part. -/
def readNumber (part : Part) (text : List Char) : Except VersionError (Nat × List Char) :=
  let digits := text.takeWhile Char.isDigit
  let behind := text.dropWhile Char.isDigit
  if digits.isEmpty then
    match text with
    | [] => .error (.unexpectedEnd part)
    | c :: _ => .error (.unexpectedChar part c)
  else if hasLeadingZero digits then .error (.leadingZero part)
  else if Nat.pow 2 64 ≤ Text.digitsValue digits then .error (.tooLarge part)
  else .ok (Text.digitsValue digits, behind)

/-- The point behind a part. -/
def readPoint (part : Part) : List Char → Except VersionError (List Char)
  | [] => .error (.unexpectedEnd part)
  | c :: text => if c = '.' then .ok text else .error (.unexpectedCharAfter part c)

/-- A letter from A to Z in either case, a digit or a hyphen. -/
def isIdentifier (c : Char) : Bool :=
  c.isAlphanum || c == '-'

/-- A text divided at its points. -/
def identifiers : List Char → List (List Char)
  | [] => [[]]
  | c :: text =>
    match c == '.', identifiers text with
    | true, parts => [] :: parts
    | false, [] => [[c]]
    | false, part :: parts => (c :: part) :: parts

/-- What is wrong with an identifier, if anything is. -/
def identifierError? (part : Part) (identifier : List Char) : Option VersionError :=
  if identifier.isEmpty then some (.emptyIdentifier part)
  else if part = .preRelease && identifier.all Char.isDigit && hasLeadingZero identifier then
    some (.leadingZero part)
  else none

/-- The identifiers of a part, with points between them. -/
def readIdentifiers (part : Part) (text : List Char) :
    Except VersionError (List String × List Char) :=
  let belongs := fun c => isIdentifier c || c == '.'
  let parts := identifiers (text.takeWhile belongs)
  match parts.findSome? (identifierError? part) with
  | some error => .error error
  | none => .ok (parts.map String.ofList, text.dropWhile belongs)

/-- The identifiers behind a sign, or none where the sign does not stand. -/
def readBehind (sign : Char) (part : Part) :
    List Char → Except VersionError (List String × List Char)
  | [] => .ok ([], [])
  | c :: text => if c = sign then readIdentifiers part text else .ok ([], c :: text)

/-- The part that is read last: errors about text behind the version name it. -/
def lastPart (preRelease build : List String) : Part :=
  if !build.isEmpty then .build else if !preRelease.isEmpty then .preRelease else .patch

/-- The version that a text is. -/
def parse (text : String) : Except VersionError Version := do
  if text.isEmpty then .error .empty
  else
    let (major, text) ← readNumber .major text.toList
    let text ← readPoint .major text
    let (minor, text) ← readNumber .minor text
    let text ← readPoint .minor text
    let (patch, text) ← readNumber .patch text
    let (preRelease, text) ← readBehind '-' .preRelease text
    let (build, text) ← readBehind '+' .build text
    match text with
    | [] => return { major, minor, patch, preRelease, build }
    | c :: _ => .error (.unexpectedCharAfter (lastPart preRelease build) c)

/-! ## Order -/

/-- The order of two identifiers. -/
def compareIdentifiers (left right : String) : Ordering :=
  match left.toList.all Char.isDigit, right.toList.all Char.isDigit with
  | true, false => .lt
  | false, true => .gt
  | false, false => compare left right
  | true, true =>
    (compare (Text.digitsValue left.toList) (Text.digitsValue right.toList)).then
      (compare left.length right.length)

/-- The order of two lists of identifiers; a list comes after each that begins it. -/
def compareLists : List String → List String → Ordering
  | [], [] => .eq
  | [], _ :: _ => .lt
  | _ :: _, [] => .gt
  | left :: lefts, right :: rights =>
    (compareIdentifiers left right).then (compareLists lefts rights)

/-- The order of two pre-releases; none at all comes last. -/
def comparePreReleases (left right : List String) : Ordering :=
  match left.isEmpty, right.isEmpty with
  | true, true => .eq
  | true, false => .gt
  | false, true => .lt
  | false, false => compareLists left right

/-- The order of precedence, in which build metadata plays no part. -/
def comparePrecedence (left right : Version) : Ordering :=
  (Ord.compare left.major right.major).then <|
  (Ord.compare left.minor right.minor).then <|
  (Ord.compare left.patch right.patch).then <|
  comparePreReleases left.preRelease right.preRelease

/-- The order of two versions: of two with the same precedence the build metadata decides. -/
def compare (left right : Version) : Ordering :=
  (comparePrecedence left right).then (compareLists left.build right.build)

/-! ## The order the other way round -/

theorem compareIdentifiers_swap (left right : String) :
    (compareIdentifiers left right).swap = compareIdentifiers right left := by
  unfold compareIdentifiers
  cases left.toList.all Char.isDigit with
  | true =>
    cases right.toList.all Char.isDigit with
    | true => simp only [Ordering.swap_then, Nat.compare_swap]
    | false => rfl
  | false =>
    cases right.toList.all Char.isDigit with
    | true => rfl
    | false => exact Std.OrientedOrd.eq_swap.symm

theorem compareLists_swap (left right : List String) :
    (compareLists left right).swap = compareLists right left := by
  induction left generalizing right with
  | nil => cases right <;> rfl
  | cons identifier left ih =>
    cases right with
    | nil => rfl
    | cons other right =>
      rw [compareLists, compareLists, Ordering.swap_then, compareIdentifiers_swap, ih]

theorem comparePreReleases_swap (left right : List String) :
    (comparePreReleases left right).swap = comparePreReleases right left := by
  unfold comparePreReleases
  cases left.isEmpty with
  | true => cases right.isEmpty <;> rfl
  | false =>
    cases right.isEmpty with
    | true => rfl
    | false => exact compareLists_swap left right

theorem comparePrecedence_swap (left right : Version) :
    (comparePrecedence left right).swap = comparePrecedence right left := by
  simp only [comparePrecedence, Ordering.swap_then, Nat.compare_swap, comparePreReleases_swap]

theorem compare_swap (left right : Version) : (compare left right).swap = compare right left := by
  rw [compare, compare, Ordering.swap_then, comparePrecedence_swap, compareLists_swap]

end Version

end Aviso
