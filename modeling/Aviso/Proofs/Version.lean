import Mathlib.Data.List.TakeWhile
import Aviso.Proofs.Literal
import Aviso.Proofs.Results
import Aviso.Version

/-!
# Texts and precedence of versions

A version has one text: its numbers in decimal digits with points between them, and
its identifiers behind their signs.

* `Version.text` writes a version, and `Version.Valid` says which versions have a text.
* `Version.parse_eq_ok_iff`: a text is read as a version exactly when it is the text of
  that version and the version is valid.
* `Version.Precedes` is the order of precedence, rule by rule, and
  `Version.comparePrecedence_eq_lt_iff` says that valid versions are compared by it.
-/

namespace Aviso

open Text

/-! ## Decimal digits -/

theorem digitChar_digitValue {c : Char} (hdigit : c.isDigit = true) :
    digitValue c < 10 ∧ Nat.digitChar (digitValue c) = c := by
  have hrange : 48 ≤ c.toNat ∧ c.toNat ≤ 57 := Char.isDigit_iff_toNat.mp hdigit
  have hvalue : digitValue c = c.toNat - 48 := rfl
  have hsmall : digitValue c < 10 := by omega
  refine ⟨hsmall, Char.toNat_inj.mp ?_⟩
  rw [Nat.toNat_digitChar_of_lt_ten hsmall]
  omega

theorem toDigits_appendDigits {number : Nat} (hpositive : 0 < number) {digits : List Char}
    (hdigits : ∀ c ∈ digits, c.isDigit = true) :
    Nat.toDigits 10 (appendDigits number digits) = Nat.toDigits 10 number ++ digits := by
  induction digits generalizing number with
  | nil => exact (List.append_nil _).symm
  | cons c digits ih =>
    obtain ⟨hdigit, hrest⟩ := List.forall_mem_cons.mp hdigits
    obtain ⟨hvalue, hchar⟩ := digitChar_digitValue hdigit
    have hnext : Nat.toDigits 10 (10 * number + digitValue c) = Nat.toDigits 10 number ++ [c] := by
      rw [← Nat.toDigits_append_toDigits (by decide) hpositive hvalue,
        Nat.toDigits_of_lt_base hvalue, hchar]
    calc
      Nat.toDigits 10 (appendDigits (10 * number + digitValue c) digits)
          = Nat.toDigits 10 (10 * number + digitValue c) ++ digits := ih (by omega) hrest
      _ = Nat.toDigits 10 number ++ c :: digits := by rw [hnext, List.append_assoc]; rfl

/-- Digits without a zero in front of others are the decimal digits of their value. -/
theorem toDigits_digitsValue {digits : List Char} (hsome : digits ≠ [])
    (hdigits : ∀ c ∈ digits, c.isDigit = true)
    (hzero : Version.hasLeadingZero digits = false) :
    Nat.toDigits 10 (digitsValue digits) = digits := by
  cases digits with
  | nil => exact absurd rfl hsome
  | cons c digits =>
    obtain ⟨hdigit, hrest⟩ := List.forall_mem_cons.mp hdigits
    obtain ⟨hvalue, hchar⟩ := digitChar_digitValue hdigit
    by_cases hfirst : c = '0'
    · subst hfirst
      obtain rfl : digits = [] := by simpa [Version.hasLeadingZero] using hzero
      rfl
    · have hpositive : 0 < digitValue c := by
        apply Nat.pos_of_ne_zero
        intro hnone
        rw [hnone] at hchar
        exact hfirst hchar.symm
      have hvalues : digitsValue (c :: digits) = appendDigits (digitValue c) digits := by
        simp [digitsValue, appendDigits]
      rw [hvalues, toDigits_appendDigits hpositive hrest, Nat.toDigits_of_lt_base hvalue, hchar]
      rfl

theorem head?_toDigits_ne {number : Nat} (hpositive : 0 < number) :
    (Nat.toDigits 10 number).head? ≠ some '0' := by
  induction number using Nat.strongRecOn with
  | ind number ih =>
    by_cases hsmall : number < 10
    · rw [Nat.toDigits_of_lt_base hsmall]
      intro hhead
      have hchar : (Nat.digitChar number).toNat = 48 := by rw [Option.some.inj hhead]; rfl
      rw [Nat.toNat_digitChar_of_lt_ten hsmall] at hchar
      omega
    · have hrest := ih (number / 10) (by omega) (by omega)
      rw [Nat.toDigits_of_base_le (by decide) (by omega),
        List.head?_append_of_ne_nil _ Nat.toDigits_ne_nil]
      exact hrest

theorem hasLeadingZero_toDigits (number : Nat) :
    Version.hasLeadingZero (Nat.toDigits 10 number) = false := by
  rcases Nat.eq_zero_or_pos number with rfl | hpositive
  · rfl
  · simp [Version.hasLeadingZero, head?_toDigits_ne hpositive]

namespace Version

/-! ## The text of a version -/

/-- Identifiers with points between them. -/
def dotted (identifiers : List String) : List Char :=
  ['.'].intercalate (identifiers.map String.toList)

/-- Identifiers behind a sign; without any there is no sign either. -/
def signed (sign : Char) (identifiers : List String) : List Char :=
  if identifiers = [] then [] else sign :: dotted identifiers

/-- The text of a version. -/
def text (version : Version) : List Char :=
  Nat.toDigits 10 version.major ++ '.' :: (Nat.toDigits 10 version.minor ++
    '.' :: (Nat.toDigits 10 version.patch ++
      (signed '-' version.preRelease ++ signed '+' version.build)))

/-- An identifier of a part: letters, digits and hyphens.  In a pre-release no zero stands in
front of other digits. -/
structure Identifier (part : Part) (identifier : List Char) : Prop where
  ne_nil : identifier ≠ []
  chars : ∀ c ∈ identifier, isIdentifier c = true
  canonical : part = .preRelease → (∀ c ∈ identifier, c.isDigit = true) →
    hasLeadingZero identifier = false

/-- The version has a text: its numbers fit 64 bits, and its identifiers can stand in their
parts. -/
structure Valid (version : Version) : Prop where
  major : version.major < Nat.pow 2 64
  minor : version.minor < Nat.pow 2 64
  patch : version.patch < Nat.pow 2 64
  preRelease : ∀ identifier ∈ version.preRelease, Identifier .preRelease identifier.toList
  build : ∀ identifier ∈ version.build, Identifier .build identifier.toList

/-! ## Reading numbers -/

section Readers

variable {part : Part} {text rest : List Char}

theorem readNumber_append {run : List Char} (hrun : ∀ c ∈ run, c.isDigit = true)
    (hrest : ∀ c ∈ rest.head?, c.isDigit = false) (hsome : run ≠ []) :
    readNumber part (run ++ rest) =
      if hasLeadingZero run then .error (.leadingZero part)
      else if Nat.pow 2 64 ≤ digitsValue run then .error (.tooLarge part)
      else .ok (digitsValue run, rest) := by
  obtain ⟨htake, hdrop⟩ := span_append hrun hrest
  simp only [readNumber, htake, hdrop, List.isEmpty_iff, hsome, if_false]

theorem readNumber_of_not_digit (hrest : ∀ c ∈ rest.head?, c.isDigit = false)
    (found : Nat × List Char) : readNumber part rest ≠ .ok found := by
  cases rest with
  | nil => simp [readNumber]
  | cons c rest => simp [readNumber, hrest c rfl]

/-- A number is read from its decimal digits, as far as digits stand. -/
theorem readNumber_eq_ok_iff {number : Nat} :
    readNumber part text = .ok (number, rest) ↔
      number < Nat.pow 2 64 ∧ text = Nat.toDigits 10 number ++ rest ∧
        ∀ c ∈ rest.head?, c.isDigit = false := by
  constructor
  · intro hread
    obtain ⟨run, behind, rfl, hrun, hbehind⟩ := exists_span Char.isDigit text
    by_cases hsome : run = []
    · rw [hsome, List.nil_append] at hread
      exact absurd hread (readNumber_of_not_digit hbehind _)
    · rw [readNumber_append hrun hbehind hsome] at hread
      split_ifs at hread with hzero hlarge
      obtain ⟨rfl, rfl⟩ := Prod.mk.inj (Except.ok.inj hread)
      rw [toDigits_digitsValue hsome hrun (Bool.eq_false_iff.mpr hzero)]
      exact ⟨Nat.lt_of_not_le hlarge, rfl, hbehind⟩
  · rintro ⟨hfits, rfl, hrest⟩
    have hdigits : ∀ c ∈ Nat.toDigits 10 number, c.isDigit = true :=
      fun c hmem => Nat.isDigit_of_mem_toDigits (by decide) (by decide) hmem
    rw [readNumber_append hdigits hrest Nat.toDigits_ne_nil, hasLeadingZero_toDigits,
      Literal.digitsValue_toDigits, if_neg (by decide), if_neg (Nat.not_le_of_lt hfits)]

theorem readPoint_eq_ok_iff : readPoint part text = .ok rest ↔ text = '.' :: rest := by
  cases text with
  | nil => simp [readPoint]
  | cons c text =>
    by_cases hpoint : c = '.'
    · simp [readPoint, hpoint]
    · simp [readPoint, hpoint]

/-! ## Reading identifiers -/

theorem identifiers_of_free {run : List Char} (hfree : '.' ∉ run) : identifiers run = [run] := by
  induction run with
  | nil => rfl
  | cons c run ih =>
    rw [List.mem_cons, not_or] at hfree
    have hpoint : (c == '.') = false := beq_false_of_ne (Ne.symm hfree.1)
    simp only [identifiers, ih hfree.2, hpoint]

theorem identifiers_append_point {run : List Char} (hfree : '.' ∉ run) (text : List Char) :
    identifiers (run ++ '.' :: text) = run :: identifiers text := by
  induction run with
  | nil => simp [identifiers]
  | cons c run ih =>
    rw [List.mem_cons, not_or] at hfree
    have hpoint : (c == '.') = false := beq_false_of_ne (Ne.symm hfree.1)
    simp only [List.cons_append, identifiers, ih hfree.2, hpoint]

/-- Texts without points are divided again at the points between them. -/
theorem identifiers_intercalate {runs : List (List Char)} (hsome : runs ≠ [])
    (hfree : ∀ run ∈ runs, '.' ∉ run) : identifiers (['.'].intercalate runs) = runs := by
  induction runs with
  | nil => exact absurd rfl hsome
  | cons run runs ih =>
    obtain ⟨hrun, hruns⟩ := List.forall_mem_cons.mp hfree
    cases runs with
    | nil => rw [List.intercalate_singleton, identifiers_of_free hrun]
    | cons next runs =>
      rw [List.intercalate_cons_cons, List.append_assoc, List.singleton_append,
        identifiers_append_point hrun, ih (by simp) hruns]

theorem intercalate_cons_append (c : Char) (run : List Char) (runs : List (List Char)) :
    ['.'].intercalate ((c :: run) :: runs) = c :: ['.'].intercalate (run :: runs) := by
  cases runs with
  | nil => simp
  | cons next runs => simp

/-- A text is the texts between its points, which hold none. -/
theorem identifiers_spec (text : List Char) :
    identifiers text ≠ [] ∧ ['.'].intercalate (identifiers text) = text ∧
      ∀ run ∈ identifiers text, ∀ c ∈ run, c ∈ text ∧ c ≠ '.' := by
  induction text with
  | nil => simp [identifiers]
  | cons c text ih =>
    obtain ⟨hsome, htext, hruns⟩ := ih
    obtain ⟨run, runs, hsplit⟩ := List.exists_cons_of_ne_nil hsome
    rw [hsplit] at htext hruns
    obtain ⟨hrun, hbehind⟩ := List.forall_mem_cons.mp hruns
    by_cases hpoint : c = '.'
    · have hcut : identifiers (c :: text) = [] :: run :: runs := by
        simp [identifiers, hsplit, hpoint]
      rw [hcut]
      refine ⟨by simp, ?_, ?_⟩
      · rw [List.intercalate_cons_cons, htext, hpoint]
        rfl
      · rw [List.forall_mem_cons]
        refine ⟨by simp, fun other hmem d hd => ?_⟩
        exact ⟨List.mem_cons_of_mem c (hruns other hmem d hd).1, (hruns other hmem d hd).2⟩
    · have hother : (c == '.') = false := beq_false_of_ne hpoint
      have hcut : identifiers (c :: text) = (c :: run) :: runs := by
        simp only [identifiers, hsplit, hother]
      rw [hcut]
      refine ⟨by simp, ?_, ?_⟩
      · rw [intercalate_cons_append, htext]
      · rw [List.forall_mem_cons, List.forall_mem_cons]
        refine ⟨⟨⟨List.mem_cons_self, hpoint⟩, fun d hd => ?_⟩, fun other hmem d hd => ?_⟩
        · exact ⟨List.mem_cons_of_mem c (hrun d hd).1, (hrun d hd).2⟩
        · exact ⟨List.mem_cons_of_mem c (hbehind other hmem d hd).1, (hbehind other hmem d hd).2⟩

/-- A character that can stand among identifiers with points between them. -/
def isDotted (c : Char) : Bool :=
  isIdentifier c || c == '.'

theorem ne_point_of_isIdentifier {c : Char} (hchar : isIdentifier c = true) : c ≠ '.' := by
  rintro rfl
  exact absurd hchar (by decide)

theorem Identifier.point_not_mem {identifier : List Char} (hvalid : Identifier part identifier) :
    '.' ∉ identifier :=
  fun hmem => ne_point_of_isIdentifier (hvalid.chars '.' hmem) rfl

theorem identifierError?_eq_none_iff {identifier : List Char}
    (hchars : ∀ c ∈ identifier, isIdentifier c = true) :
    identifierError? part identifier = none ↔ Identifier part identifier := by
  have hdigits : identifier.all Char.isDigit = true ↔ ∀ c ∈ identifier, c.isDigit = true :=
    List.all_eq_true
  constructor
  · intro hnone
    simp only [identifierError?, Bool.and_eq_true, decide_eq_true_eq, hdigits] at hnone
    split_ifs at hnone with hempty hzero
    refine ⟨fun hnil => hempty (List.isEmpty_iff.mpr hnil), hchars, fun hpart hall => ?_⟩
    exact Bool.eq_false_iff.mpr fun hleading => hzero ⟨⟨hpart, hall⟩, hleading⟩
  · intro hvalid
    have hempty : identifier.isEmpty = false := by simpa using hvalid.ne_nil
    simp only [identifierError?, hempty, Bool.and_eq_true, decide_eq_true_eq, hdigits]
    rw [if_neg (by decide), if_neg]
    rintro ⟨⟨hpart, hall⟩, hleading⟩
    exact absurd hleading (Bool.eq_false_iff.mp (hvalid.canonical hpart hall))

theorem isDotted_of_mem_intercalate {runs : List (List Char)}
    (hruns : ∀ run ∈ runs, ∀ c ∈ run, isIdentifier c = true) :
    ∀ c ∈ ['.'].intercalate runs, isDotted c = true := by
  induction runs with
  | nil => simp
  | cons run runs ih =>
    obtain ⟨hrun, hbehind⟩ := List.forall_mem_cons.mp hruns
    have hfirst : ∀ c ∈ run, isDotted c = true := fun c hmem => by simp [isDotted, hrun c hmem]
    cases runs with
    | nil => rwa [List.intercalate_singleton]
    | cons next runs =>
      rw [List.intercalate_cons_cons]
      intro c hmem
      rcases List.mem_append.mp hmem with hmem | hmem
      · rcases List.mem_append.mp hmem with hmem | hmem
        · exact hfirst c hmem
        · rw [List.mem_singleton.mp hmem]
          rfl
      · exact ih hbehind c hmem

theorem readIdentifiers_append {run : List Char} (hrun : ∀ c ∈ run, isDotted c = true)
    (hrest : ∀ c ∈ rest.head?, isDotted c = false) :
    readIdentifiers part (run ++ rest) =
      ((identifiers run).findSome? (identifierError? part)).elim
        (.ok ((identifiers run).map String.ofList, rest)) .error := by
  obtain ⟨htake, hdrop⟩ : (run ++ rest).takeWhile (fun c => isIdentifier c || c == '.') = run ∧
      (run ++ rest).dropWhile (fun c => isIdentifier c || c == '.') = rest :=
    span_append hrun hrest
  simp only [readIdentifiers, htake, hdrop]
  cases (identifiers run).findSome? (identifierError? part) <;> rfl

/-- Identifiers are read as far as their characters and points stand. -/
theorem readIdentifiers_eq_ok_iff {found : List String} :
    readIdentifiers part text = .ok (found, rest) ↔
      found ≠ [] ∧ (∀ identifier ∈ found, Identifier part identifier.toList) ∧
        text = dotted found ++ rest ∧ ∀ c ∈ rest.head?, isDotted c = false := by
  constructor
  · intro hread
    obtain ⟨run, behind, rfl, hrun, hbehind⟩ := exists_span isDotted text
    rw [readIdentifiers_append hrun hbehind] at hread
    obtain ⟨hsome, htext, hparts⟩ := identifiers_spec run
    cases hwrong : (identifiers run).findSome? (identifierError? part) with
    | some error => simp [hwrong] at hread
    | none =>
      simp only [hwrong, Option.elim_none] at hread
      obtain ⟨rfl, rfl⟩ := Prod.mk.inj (Except.ok.inj hread)
      have hlists : ((identifiers run).map String.ofList).map String.toList = identifiers run := by
        simp
      refine ⟨by simpa using hsome, ?_, by rw [dotted, hlists, htext], hbehind⟩
      intro identifier hmem
      obtain ⟨part', hpart, rfl⟩ := List.mem_map.mp hmem
      rw [String.toList_ofList]
      have hchars : ∀ c ∈ part', isIdentifier c = true := by
        intro c hc
        obtain ⟨hin, hpoint⟩ := hparts part' hpart c hc
        simpa [isDotted, hpoint] using hrun c hin
      exact (identifierError?_eq_none_iff hchars).mp
        (List.findSome?_eq_none_iff.mp hwrong part' hpart)
  · rintro ⟨hsome, hvalid, rfl, hrest⟩
    have hlists : ∀ run ∈ found.map String.toList, Identifier part run := by
      simpa using hvalid
    have hcut : identifiers (dotted found) = found.map String.toList :=
      identifiers_intercalate (by simpa using hsome)
        fun run hmem => (hlists run hmem).point_not_mem
    have hrun : ∀ c ∈ dotted found, isDotted c = true :=
      isDotted_of_mem_intercalate fun run hmem => (hlists run hmem).chars
    have hright : (found.map String.toList).findSome? (identifierError? part) = none :=
      List.findSome?_eq_none_iff.mpr fun run hmem =>
        (identifierError?_eq_none_iff (hlists run hmem).chars).mpr (hlists run hmem)
    rw [readIdentifiers_append hrun hrest, hcut, hright]
    simp

/-- Behind a sign identifiers are read, and without one there are none. -/
theorem readBehind_eq_ok_iff {sign : Char} {found : List String} :
    readBehind sign part text = .ok (found, rest) ↔
      (∀ identifier ∈ found, Identifier part identifier.toList) ∧
        text = signed sign found ++ rest ∧
          ∀ c ∈ rest.head?, if found = [] then c ≠ sign else isDotted c = false := by
  cases text with
  | nil =>
    constructor
    · intro hread
      obtain ⟨rfl, rfl⟩ := Prod.mk.inj (Except.ok.inj hread)
      simp [signed]
    · rintro ⟨-, hnil, -⟩
      obtain ⟨hsigned, rfl⟩ := List.append_eq_nil_iff.mp hnil.symm
      by_cases hnone : found = []
      · rw [hnone]
        rfl
      · simp [signed, hnone] at hsigned
  | cons c text =>
    by_cases hsign : c = sign
    · subst hsign
      rw [readBehind, if_pos rfl, readIdentifiers_eq_ok_iff]
      constructor
      · rintro ⟨hsome, hvalid, rfl, hrest⟩
        simpa [signed, hsome] using ⟨hvalid, hrest⟩
      · rintro ⟨hvalid, htext, hrest⟩
        by_cases hnone : found = []
        · subst hnone
          obtain rfl : c :: text = rest := htext
          exact absurd rfl (hrest c rfl)
        · simp only [signed, if_neg hnone] at htext hrest
          exact ⟨hnone, hvalid, (List.cons.inj htext).2, hrest⟩
    · rw [readBehind, if_neg hsign]
      constructor
      · intro hread
        obtain ⟨rfl, rfl⟩ := Prod.mk.inj (Except.ok.inj hread)
        simpa [signed] using hsign
      · rintro ⟨-, htext, -⟩
        by_cases hnone : found = []
        · subst hnone
          obtain rfl : c :: text = rest := htext
          rfl
        · simp only [signed, if_neg hnone] at htext
          exact absurd (List.cons.inj htext).1 hsign

end Readers

/-! ## Reading a version -/

theorem eq_of_mem_head?_signed {sign c : Char} {identifiers : List String}
    (hhead : c ∈ (signed sign identifiers).head?) : c = sign := by
  by_cases hnone : identifiers = []
  · simp [signed, hnone] at hhead
  · simpa [signed, hnone, eq_comm] using hhead

theorem text_ne_nil (version : Version) : version.text ≠ [] := by
  simp [text, Nat.toDigits_ne_nil]

/-- A text is read as a version exactly when it is the text of the version. -/
theorem parse_eq_ok_iff {text : String} {version : Version} :
    parse text = .ok version ↔ version.Valid ∧ text.toList = version.text := by
  unfold parse
  split_ifs with hempty
  · obtain rfl := String.isEmpty_iff.mp hempty
    constructor
    · intro hread
      exact absurd hread (by simp)
    · rintro ⟨-, htext⟩
      exact absurd htext.symm version.text_ne_nil
  · simp only [bind_eq_ok_iff, Prod.exists, readNumber_eq_ok_iff, readPoint_eq_ok_iff,
      readBehind_eq_ok_iff]
    constructor
    · rintro ⟨major, text₁, ⟨hmajor, htext, -⟩, text₂, rfl, minor, text₃, ⟨hminor, rfl, -⟩,
        text₄, rfl, patch, text₅, ⟨hpatch, rfl, -⟩, preRelease, text₆, ⟨hpre, rfl, -⟩,
        build, text₇, ⟨hbuild, rfl, -⟩, hend⟩
      cases text₇ with
      | nil =>
        obtain rfl := Except.ok.inj hend
        refine ⟨⟨hmajor, hminor, hpatch, hpre, hbuild⟩, ?_⟩
        rw [htext, List.append_nil]
        rfl
      | cons c text₇ => exact absurd hend (by simp)
    · rintro ⟨⟨hmajor, hminor, hpatch, hpre, hbuild⟩, htext⟩
      refine ⟨_, _, ⟨hmajor, htext, ?_⟩, _, rfl, _, _, ⟨hminor, rfl, ?_⟩, _, rfl, _, _,
        ⟨hpatch, rfl, ?_⟩, _, _, ⟨hpre, rfl, ?_⟩, _, [], ⟨hbuild, (List.append_nil _).symm, ?_⟩,
        rfl⟩
      -- No part goes on at the sign of the part behind it.
      · simp
      · simp
      · intro c hhead
        rw [List.head?_append] at hhead
        rcases Option.or_eq_some_iff.mp hhead with hhead | ⟨-, hhead⟩
        · rw [eq_of_mem_head?_signed hhead]
          rfl
        · rw [eq_of_mem_head?_signed hhead]
          rfl
      · intro c hhead
        rw [eq_of_mem_head?_signed hhead]
        split_ifs <;> decide
      · simp

/-! ## Precedence -/

/-- The identifier consists of digits. -/
def IsNumber (identifier : String) : Prop :=
  ∀ c ∈ identifier.toList, c.isDigit = true

/-- Precedence of identifiers: numbers by their values, in front of words, and words by their
characters. -/
inductive IdentifierPrecedes (left right : String) : Prop
  | numbers (hleft : IsNumber left) (hright : IsNumber right)
      (hless : digitsValue left.toList < digitsValue right.toList)
  | numberWord (hleft : IsNumber left) (hright : ¬ IsNumber right)
  | words (hleft : ¬ IsNumber left) (hright : ¬ IsNumber right) (hless : left < right)

/-- Precedence of pre-releases: each in front of none, and otherwise by the first identifiers
that differ, the one that ends before any do in front. -/
def PreReleasePrecedes (left right : List String) : Prop :=
  left ≠ [] ∧ (right = [] ∨ List.Lex IdentifierPrecedes left right)

/-- Precedence of versions: by the first of the three numbers that differs, and by the
pre-release where none does. -/
inductive Precedes (left right : Version) : Prop
  | major (hless : left.major < right.major)
  | minor (hmajor : left.major = right.major) (hless : left.minor < right.minor)
  | patch (hmajor : left.major = right.major) (hminor : left.minor = right.minor)
      (hless : left.patch < right.patch)
  | preRelease (hmajor : left.major = right.major) (hminor : left.minor = right.minor)
      (hpatch : left.patch = right.patch)
      (hless : PreReleasePrecedes left.preRelease right.preRelease)

/-- The version with no build metadata. -/
def withoutBuild (version : Version) : Version :=
  { version with build := [] }

theorem withoutBuild_inj {left right : Version} :
    left.withoutBuild = right.withoutBuild ↔
      left.major = right.major ∧ left.minor = right.minor ∧ left.patch = right.patch ∧
        left.preRelease = right.preRelease := by
  simp [withoutBuild]

theorem all_isDigit_iff {identifier : String} :
    identifier.toList.all Char.isDigit = true ↔ IsNumber identifier :=
  List.all_eq_true

theorem all_isDigit_eq_false_iff {identifier : String} :
    identifier.toList.all Char.isDigit = false ↔ ¬ IsNumber identifier := by
  rw [← all_isDigit_iff, Bool.not_eq_true]

theorem compareString_eq_lt_iff {left right : String} :
    Ord.compare left right = .lt ↔ left < right := by
  change compareOfLessAndEq left right = .lt ↔ left < right
  unfold compareOfLessAndEq
  split_ifs with hless hsame <;> simp [hless]

section Order

variable {left right : String} {lefts rights : List String}

/-- In a pre-release the digits of a number are those of its value. -/
theorem eq_of_digitsValue_eq (hleft : Identifier .preRelease left.toList)
    (hright : Identifier .preRelease right.toList) (hnumber : IsNumber left)
    (hother : IsNumber right) (hvalues : digitsValue left.toList = digitsValue right.toList) :
    left = right := by
  rw [← String.toList_inj, ← toDigits_digitsValue hleft.ne_nil hnumber
    (hleft.canonical rfl hnumber), hvalues, toDigits_digitsValue hright.ne_nil hother
    (hright.canonical rfl hother)]

theorem compareIdentifiers_eq_eq_iff (hleft : Identifier .preRelease left.toList)
    (hright : Identifier .preRelease right.toList) :
    compareIdentifiers left right = .eq ↔ left = right := by
  constructor
  · intro heq
    unfold compareIdentifiers at heq
    split at heq
    · exact absurd heq (by simp)
    · exact absurd heq (by simp)
    · exact Std.compare_eq_iff_eq.mp heq
    · next hnumber hother =>
      obtain ⟨hvalues, -⟩ := Ordering.then_eq_eq.mp heq
      exact eq_of_digitsValue_eq hleft hright (all_isDigit_iff.mp hnumber)
        (all_isDigit_iff.mp hother) (Nat.compare_eq_eq.mp hvalues)
  · rintro rfl
    unfold compareIdentifiers
    cases left.toList.all Char.isDigit <;> simp

theorem compareIdentifiers_eq_lt_iff (hleft : Identifier .preRelease left.toList)
    (hright : Identifier .preRelease right.toList) :
    compareIdentifiers left right = .lt ↔ IdentifierPrecedes left right := by
  unfold compareIdentifiers
  split
  next hnumber hword =>
    exact iff_of_true rfl
      (.numberWord (all_isDigit_iff.mp hnumber) (all_isDigit_eq_false_iff.mp hword))
  next hword hnumber =>
    have hword := all_isDigit_eq_false_iff.mp hword
    have hnumber := all_isDigit_iff.mp hnumber
    refine iff_of_false (by simp) fun hless => ?_
    cases hless with
    | numbers hother => exact hword hother
    | numberWord hother => exact hword hother
    | words _ hother => exact hother hnumber
  next hword hother =>
    have hword := all_isDigit_eq_false_iff.mp hword
    have hother := all_isDigit_eq_false_iff.mp hother
    rw [compareString_eq_lt_iff]
    refine ⟨fun hless => .words hword hother hless, fun hless => ?_⟩
    cases hless with
    | numbers hnumber => exact absurd hnumber hword
    | numberWord hnumber => exact absurd hnumber hword
    | words _ _ hless => exact hless
  next hnumber hother =>
    -- Numbers of one value have the same digits, so their lengths never decide.
    have hnumber := all_isDigit_iff.mp hnumber
    have hother := all_isDigit_iff.mp hother
    rw [Ordering.then_eq_lt, Nat.compare_eq_lt, Nat.compare_eq_eq, Nat.compare_eq_lt]
    constructor
    · rintro (hless | ⟨hvalues, hshorter⟩)
      · exact .numbers hnumber hother hless
      · obtain rfl := eq_of_digitsValue_eq hleft hright hnumber hother hvalues
        exact absurd hshorter (Nat.lt_irrefl _)
    · intro hless
      cases hless with
      | numbers _ _ hless => exact .inl hless
      | numberWord _ hword => exact absurd hother hword
      | words hword => exact absurd hnumber hword

variable (hlefts : ∀ identifier ∈ lefts, Identifier .preRelease identifier.toList)
  (hrights : ∀ identifier ∈ rights, Identifier .preRelease identifier.toList)

include hlefts hrights

theorem compareLists_eq_eq_iff : compareLists lefts rights = .eq ↔ lefts = rights := by
  induction lefts generalizing rights with
  | nil => cases rights <;> simp [compareLists]
  | cons left lefts ih =>
    cases rights with
    | nil => simp [compareLists]
    | cons right rights =>
      obtain ⟨hleft, hlefts⟩ := List.forall_mem_cons.mp hlefts
      obtain ⟨hright, hrights⟩ := List.forall_mem_cons.mp hrights
      rw [compareLists, Ordering.then_eq_eq, compareIdentifiers_eq_eq_iff hleft hright,
        ih hlefts hrights, List.cons.injEq]

theorem compareLists_eq_lt_iff :
    compareLists lefts rights = .lt ↔ List.Lex IdentifierPrecedes lefts rights := by
  induction lefts generalizing rights with
  | nil => cases rights <;> simp [compareLists]
  | cons left lefts ih =>
    cases rights with
    | nil => simp [compareLists]
    | cons right rights =>
      obtain ⟨hleft, hlefts⟩ := List.forall_mem_cons.mp hlefts
      obtain ⟨hright, hrights⟩ := List.forall_mem_cons.mp hrights
      rw [compareLists, Ordering.then_eq_lt, compareIdentifiers_eq_eq_iff hleft hright,
        compareIdentifiers_eq_lt_iff hleft hright, ih hlefts hrights, List.cons_lex_cons_iff]

theorem comparePreReleases_eq_eq_iff : comparePreReleases lefts rights = .eq ↔ lefts = rights := by
  cases lefts with
  | nil => cases rights <;> simp [comparePreReleases]
  | cons left lefts =>
    cases rights with
    | nil => simp [comparePreReleases]
    | cons right rights => exact compareLists_eq_eq_iff hlefts hrights

theorem comparePreReleases_eq_lt_iff :
    comparePreReleases lefts rights = .lt ↔ PreReleasePrecedes lefts rights := by
  cases lefts with
  | nil => cases rights <;> simp [comparePreReleases, PreReleasePrecedes]
  | cons left lefts =>
    cases rights with
    | nil => simp [comparePreReleases, PreReleasePrecedes]
    | cons right rights =>
      have hlists : comparePreReleases (left :: lefts) (right :: rights) =
          compareLists (left :: lefts) (right :: rights) := rfl
      rw [hlists, compareLists_eq_lt_iff hlefts hrights]
      simp [PreReleasePrecedes]

end Order

section Versions

variable {left right : Version}

theorem comparePrecedence_eq_eq_iff (hleft : left.Valid) (hright : right.Valid) :
    comparePrecedence left right = .eq ↔ left.withoutBuild = right.withoutBuild := by
  rw [comparePrecedence, Ordering.then_eq_eq, Ordering.then_eq_eq, Ordering.then_eq_eq,
    Nat.compare_eq_eq, Nat.compare_eq_eq, Nat.compare_eq_eq,
    comparePreReleases_eq_eq_iff hleft.preRelease hright.preRelease, withoutBuild_inj]

theorem precedes_iff :
    left.Precedes right ↔
      left.major < right.major ∨ left.major = right.major ∧
        (left.minor < right.minor ∨ left.minor = right.minor ∧
          (left.patch < right.patch ∨ left.patch = right.patch ∧
            PreReleasePrecedes left.preRelease right.preRelease)) := by
  constructor
  · intro hless
    cases hless with
    | major hless => exact .inl hless
    | minor hmajor hless => exact .inr ⟨hmajor, .inl hless⟩
    | patch hmajor hminor hless => exact .inr ⟨hmajor, .inr ⟨hminor, .inl hless⟩⟩
    | preRelease hmajor hminor hpatch hless =>
      exact .inr ⟨hmajor, .inr ⟨hminor, .inr ⟨hpatch, hless⟩⟩⟩
  · rintro (hless | ⟨hmajor, hless | ⟨hminor, hless | ⟨hpatch, hless⟩⟩⟩)
    · exact .major hless
    · exact .minor hmajor hless
    · exact .patch hmajor hminor hless
    · exact .preRelease hmajor hminor hpatch hless

theorem precedes_congr_right {other : Version} (hsame : other.withoutBuild = right.withoutBuild) :
    left.Precedes other ↔ left.Precedes right := by
  obtain ⟨hmajor, hminor, hpatch, hpreRelease⟩ := withoutBuild_inj.mp hsame
  rw [precedes_iff, precedes_iff, hmajor, hminor, hpatch, hpreRelease]

/-- Valid versions are compared by their precedence. -/
theorem comparePrecedence_eq_lt_iff (hleft : left.Valid) (hright : right.Valid) :
    comparePrecedence left right = .lt ↔ left.Precedes right := by
  rw [comparePrecedence, Ordering.then_eq_lt, Ordering.then_eq_lt, Ordering.then_eq_lt,
    Nat.compare_eq_lt, Nat.compare_eq_lt, Nat.compare_eq_lt, Nat.compare_eq_eq,
    Nat.compare_eq_eq, Nat.compare_eq_eq,
    comparePreReleases_eq_lt_iff hleft.preRelease hright.preRelease, precedes_iff]

/-- A version comes before another if its precedence is lower, and before one that differs in the
build metadata alone if its build metadata comes first. -/
theorem compare_eq_lt_iff (hleft : left.Valid) (hright : right.Valid) :
    left.compare right = .lt ↔
      left.Precedes right ∨
        left.withoutBuild = right.withoutBuild ∧ compareLists left.build right.build = .lt := by
  rw [compare, Ordering.then_eq_lt, comparePrecedence_eq_lt_iff hleft hright,
    comparePrecedence_eq_eq_iff hleft hright]

/-- Of two versions that differ in their build metadata alone neither precedes the other. -/
theorem not_precedes_of_withoutBuild_eq (hleft : left.Valid) (hright : right.Valid)
    (hsame : left.withoutBuild = right.withoutBuild) : ¬ left.Precedes right := by
  rw [← comparePrecedence_eq_lt_iff hleft hright,
    (comparePrecedence_eq_eq_iff hleft hright).mpr hsame]
  decide

end Versions

theorem compareLists_nil_eq_lt_iff {identifiers : List String} :
    compareLists [] identifiers = .lt ↔ identifiers ≠ [] := by
  cases identifiers <;> simp [compareLists]

end Version

end Aviso
