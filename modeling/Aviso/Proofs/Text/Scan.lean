import Mathlib.Data.List.Basic
import Aviso.Text.Scan

/-!
# The gaps and finds of a scan

A scan divides a text into finds and the gaps between them.  This file states
that division as a relation, so that later proofs do not follow the scan from
character to character.

* `Silent` says that no find begins in a gap, and `Divided` that a text is gaps
  and finds in turn, each gap silent and each find what the reader takes there.
* `exists_divided`: a text has a division, if the reader takes what it finds
  from the front of the text (`Takes`).
* `Divided.unique`: it has only one.
* `Divided.scanFrom_eq`, `Divided.finds_eq`, `Divided.divide_scan`: a division
  determines what the scan returns.
* `Grammar.Divides` is a division in terms of the text alone, in which no reader and no scan
  occurs.  `Grammar.ReadBy` says that a reader reads a grammar, and
  `Grammar.ReadBy.exists_division` that the scan then finds the one division of a text.
* `Sealed` says that no find crosses the end of a text, and `Sealed.scan_append`
  that a scan is then cut there; `sealed_append` is about texts that end with a marker.
-/

namespace Aviso.Text

variable {α : Type}

/-! ## Readers -/

/-- A reader that takes what it finds from the front of the text, at least one
character of it. -/
def Takes (read : Reader α) : Prop :=
  ∀ ⦃before c text value behind⦄, read before (c :: text) = some (value, behind) →
    ∃ taken, text = taken ++ behind

/-! ## Silent gaps -/

/-- No find begins in the gap, when `before` stands in front of it and `rest`
behind it. -/
def Silent (read : Reader α) (before : Option Char) (gap rest : List Char) : Prop :=
  ∀ front c back, gap = front ++ c :: back →
    read (lastOf before front) (c :: (back ++ rest)) = none

theorem silent_nil (read : Reader α) (before : Option Char) (rest : List Char) :
    Silent read before [] rest := by
  intro front c back hsplit
  exact absurd hsplit (by simp)

theorem silent_cons_iff {read : Reader α} {before : Option Char} {c : Char}
    {gap rest : List Char} :
    Silent read before (c :: gap) rest ↔
      read before (c :: (gap ++ rest)) = none ∧ Silent read (some c) gap rest := by
  constructor
  · intro hsilent
    refine ⟨hsilent [] c gap rfl, ?_⟩
    intro front d back hsplit
    exact hsilent (c :: front) d back (by rw [hsplit]; rfl)
  · rintro ⟨hhead, htail⟩ front d back hsplit
    cases front with
    | nil =>
      obtain ⟨rfl, rfl⟩ := List.cons.inj hsplit
      exact hhead
    | cons e front =>
      obtain ⟨rfl, hgap⟩ := List.cons.inj hsplit
      exact htail front d back hgap

theorem silent_append_iff {read : Reader α} {before : Option Char}
    {first second rest : List Char} :
    Silent read before (first ++ second) rest ↔
      Silent read before first (second ++ rest) ∧
        Silent read (lastOf before first) second rest := by
  induction first generalizing before with
  | nil => simp [silent_nil, lastOf]
  | cons c first ih =>
    rw [List.cons_append, silent_cons_iff, silent_cons_iff, ih, List.append_assoc, lastOf,
      and_assoc]

/-- A gap is silent when the reader finds nothing at any of its characters,
whatever stands around them. -/
theorem silent_of_forall {read : Reader α} {gap : List Char}
    (hnone : ∀ c ∈ gap, ∀ before text, read before (c :: text) = none)
    (before : Option Char) (rest : List Char) : Silent read before gap rest := by
  rintro front c back rfl
  exact hnone c (by simp) _ _

/-- A scan passes a silent gap over. -/
theorem scanFrom_silent {read : Reader α} {before : Option Char} {gap rest : List Char}
    (hsilent : Silent read before gap rest) :
    scanFrom read before 0 (gap ++ rest) =
      gap.map Piece.plain ++ scanFrom read (lastOf before gap) 0 rest := by
  induction gap generalizing before with
  | nil => rfl
  | cons c gap ih =>
    obtain ⟨hhead, htail⟩ := silent_cons_iff.mp hsilent
    rw [List.cons_append, scanFrom_of_none hhead, ih htail]
    rfl

/-! ## Divisions -/

/-- One find of a scan, with the gap in front of it. -/
structure Find (α : Type) where
  gap : List Char
  /-- The text of the find. -/
  taken : List Char
  value : α

/-- The text behind `before` is the finds, each behind its gap, and a last gap. -/
inductive Divided (read : Reader α) :
    Option Char → List Char → List (Find α) → List Char → Prop where
  | last {before gap} (hgap : Silent read before gap []) : Divided read before gap [] gap
  | find {before gap c taken behind value finds rest}
      (hgap : Silent read before gap (c :: (taken ++ behind)))
      (hfind : read (lastOf before gap) (c :: (taken ++ behind)) = some (value, behind))
      (hbehind : Divided read (lastOf (lastOf before gap) (c :: taken)) behind finds rest) :
      Divided read before (gap ++ c :: (taken ++ behind))
        ({ gap, taken := c :: taken, value } :: finds) rest

/-- A character at which nothing is found lengthens the first gap. -/
theorem Divided.cons {read : Reader α} {before : Option Char} {c : Char} {text rest : List Char}
    {finds : List (Find α)} (hnone : read before (c :: text) = none)
    (hdivided : Divided read (some c) text finds rest) :
    ∃ finds rest, Divided read before (c :: text) finds rest := by
  cases hdivided with
  | last hgap =>
    refine ⟨[], c :: text, .last (silent_cons_iff.mpr ⟨?_, hgap⟩)⟩
    rw [List.append_nil]
    exact hnone
  | @find _ gap d taken behind value finds _ hgap hfind hbehind =>
    have hlonger : Silent read before (c :: gap) (d :: (taken ++ behind)) :=
      silent_cons_iff.mpr ⟨hnone, hgap⟩
    exact ⟨_, rest, .find hlonger hfind hbehind⟩

/-- A find behind a silent gap, and a division of what follows it. -/
theorem Divided.found {read : Reader α} {before : Option Char} {gap taken behind rest : List Char}
    {value : α} {finds : List (Find α)} (hsome : taken ≠ [])
    (hgap : Silent read before gap (taken ++ behind))
    (hfind : read (lastOf before gap) (taken ++ behind) = some (value, behind))
    (hbehind : Divided read (lastOf (lastOf before gap) taken) behind finds rest) :
    Divided read before (gap ++ (taken ++ behind)) ({ gap, taken, value } :: finds) rest := by
  cases taken with
  | nil => exact absurd rfl hsome
  | cons c taken => exact .find hgap hfind hbehind

/-- Every text has a division.  The induction is on the length of the text,
since behind a find it goes on at a text that is shorter by the whole find. -/
theorem exists_divided {read : Reader α} (htakes : Takes read) (before : Option Char)
    (text : List Char) : ∃ finds rest, Divided read before text finds rest := by
  induction hlength : text.length using Nat.strongRecOn generalizing before text with
  | ind length ih =>
    cases text with
    | nil => exact ⟨[], [], .last (silent_nil read before [])⟩
    | cons c text =>
      rw [List.length_cons] at hlength
      cases hread : read before (c :: text) with
      | none =>
        obtain ⟨finds, rest, hdivided⟩ := ih text.length (by omega) (some c) text rfl
        exact hdivided.cons hread
      | some found =>
        obtain ⟨value, behind⟩ := found
        obtain ⟨taken, rfl⟩ := htakes hread
        rw [List.length_append] at hlength
        obtain ⟨finds, rest, hdivided⟩ :=
          ih behind.length (by omega) (lastOf before (c :: taken)) behind rfl
        have hsilent : Silent read before [] (c :: (taken ++ behind)) := silent_nil read before _
        exact ⟨_, rest, .find hsilent hread hdivided⟩

/-- The text of a division. -/
theorem Divided.text_eq {read : Reader α} {before : Option Char} {text rest : List Char}
    {finds : List (Find α)} (hdivided : Divided read before text finds rest) :
    text = finds.flatMap (fun find => find.gap ++ find.taken) ++ rest := by
  induction hdivided with
  | last => rfl
  | find _ _ _ ih =>
    rw [List.flatMap_cons, List.append_assoc, ← ih]
    simp

/-- A text in which a find begins is not silent there. -/
theorem not_silent_of_found {read : Reader α} {before : Option Char} {gap more rest : List Char}
    {c : Char} {found : α × List Char}
    (hfound : read (lastOf before gap) (c :: (more ++ rest)) = some found) :
    ¬ Silent read before (gap ++ c :: more) rest := by
  intro hsilent
  rw [hsilent gap c more rfl] at hfound
  exact absurd hfound (by simp)

/-- Nothing is found in a text that is silent to its end. -/
theorem Silent.not_found {read : Reader α} {before : Option Char} {gap text : List Char} {c : Char}
    {found : α × List Char} (hsilent : Silent read before (gap ++ c :: text) []) :
    read (lastOf before gap) (c :: text) ≠ some found := by
  intro hfound
  have hmore : read (lastOf before gap) (c :: (text ++ [])) = some found := by
    rw [List.append_nil]
    exact hfound
  exact not_silent_of_found hmore hsilent

/-- Two silent gaps in one text are equal when a find begins behind each: of two
different ones the longer holds the find behind the shorter. -/
theorem Silent.gap_unique {read : Reader α} {before : Option Char}
    {gap gap' rest rest' : List Char} {c c' : Char} {found found' : α × List Char}
    (hgap : Silent read before gap (c :: rest)) (hgap' : Silent read before gap' (c' :: rest'))
    (hfound : read (lastOf before gap) (c :: rest) = some found)
    (hfound' : read (lastOf before gap') (c' :: rest') = some found')
    (hsame : gap ++ c :: rest = gap' ++ c' :: rest') : gap = gap' := by
  rcases List.append_eq_append_iff.mp hsame with ⟨more, rfl, hmore⟩ | ⟨more, rfl, hmore⟩
  · cases more with
    | nil => rw [List.append_nil]
    | cons d more =>
      obtain ⟨rfl, rfl⟩ := List.cons.inj hmore
      exact absurd hgap' (not_silent_of_found hfound)
  · cases more with
    | nil => rw [List.append_nil]
    | cons d more =>
      obtain ⟨rfl, rfl⟩ := List.cons.inj hmore
      exact absurd hgap (not_silent_of_found hfound')

/-- The two forms of a division. -/
theorem Divided.inv {read : Reader α} {before : Option Char} {text rest : List Char}
    {finds : List (Find α)} (hdivided : Divided read before text finds rest) :
    (finds = [] ∧ rest = text ∧ Silent read before text []) ∨
      ∃ gap c taken behind value others,
        text = gap ++ c :: (taken ++ behind) ∧
        finds = { gap, taken := c :: taken, value } :: others ∧
        Silent read before gap (c :: (taken ++ behind)) ∧
        read (lastOf before gap) (c :: (taken ++ behind)) = some (value, behind) ∧
        Divided read (lastOf (lastOf before gap) (c :: taken)) behind others rest := by
  cases hdivided with
  | last hgap => exact .inl ⟨rfl, rfl, hgap⟩
  | find hgap hfind hbehind => exact .inr ⟨_, _, _, _, _, _, rfl, rfl, hgap, hfind, hbehind⟩

/-- A text has only one division. -/
theorem Divided.unique {read : Reader α} {before : Option Char} {text rest rest' : List Char}
    {finds finds' : List (Find α)} (hdivided : Divided read before text finds rest)
    (hother : Divided read before text finds' rest') : finds = finds' ∧ rest = rest' := by
  induction hdivided generalizing finds' rest' with
  | @last before _ hgap =>
    rcases hother.inv with ⟨rfl, rfl, _⟩ | ⟨gap, c, taken, behind, value, _, rfl, _, _, hfind, _⟩
    · exact ⟨rfl, rfl⟩
    · exact absurd hfind hgap.not_found
  | @find before gap c taken behind value _ _ hgap hfind _ ih =>
    rcases hother.inv with
      ⟨_, _, hsilent⟩ | ⟨gap', c', taken', behind', value', _, hsame, rfl, hgap', hfind', hbehind'⟩
    · exact absurd hfind hsilent.not_found
    · have hgaps : gap = gap' := hgap.gap_unique hgap' hfind hfind' hsame
      subst hgaps
      have htext := List.append_cancel_left hsame
      rw [← htext, hfind] at hfind'
      obtain ⟨rfl, rfl⟩ := Prod.mk.inj (Option.some.inj hfind')
      obtain ⟨rfl, htaken⟩ := List.cons.inj htext
      have htakens : taken = taken' := List.append_cancel_right htaken
      subst htakens
      obtain ⟨rfl, rfl⟩ := ih hbehind'
      exact ⟨rfl, rfl⟩

/-! ## What a division determines -/

/-- The pieces of a find and of the gap in front of it. -/
def Find.pieces (find : Find α) : List (Piece α) :=
  find.gap.map Piece.plain ++ [.found find.value]

theorem Divided.scanFrom_eq {read : Reader α} {before : Option Char} {text rest : List Char}
    {finds : List (Find α)} (hdivided : Divided read before text finds rest) :
    scanFrom read before 0 text = finds.flatMap Find.pieces ++ rest.map Piece.plain := by
  induction hdivided with
  | last hgap =>
    have hscan := scanFrom_silent hgap
    rw [List.append_nil, scanFrom, List.append_nil] at hscan
    exact hscan
  | find hgap hfind _ ih =>
    rw [lastOf] at ih
    rw [scanFrom_silent hgap, scanFrom_of_found hfind, ih, List.flatMap_cons, Find.pieces]
    simp

theorem filterMap_found?_plain (gap : List Char) :
    (gap.map Piece.plain).filterMap (@Piece.found? α) = [] := by
  rw [List.filterMap_map]
  exact List.filterMap_eq_nil_iff.mpr fun _ _ => rfl

/-- The finds of a scan are the finds of the division. -/
theorem Divided.finds_eq {read : Reader α} {text rest : List Char} {found : List (Find α)}
    (hdivided : Divided read none text found rest) :
    finds read text = found.map Find.value := by
  have hpieces (find : Find α) : find.pieces.filterMap Piece.found? = [find.value] := by
    rw [Find.pieces, List.filterMap_append, filterMap_found?_plain]
    rfl
  rw [finds, scan, hdivided.scanFrom_eq, List.filterMap_append, filterMap_found?_plain,
    List.append_nil, List.filterMap_flatMap, funext hpieces, List.map_eq_flatMap]

theorem Divided.exists_read {read : Reader α} {before : Option Char} {text rest : List Char}
    {found : List (Find α)} (hdivided : Divided read before text found rest) {find : Find α}
    (hmem : find ∈ found) :
    ∃ front further behind, read front further = some (find.value, behind) := by
  induction hdivided with
  | last => exact absurd hmem (by simp)
  | find _ hfind _ ih =>
    rcases List.mem_cons.mp hmem with rfl | hmem
    · exact ⟨_, _, _, hfind⟩
    · exact ih hmem

/-- Whatever a scan finds was read somewhere. -/
theorem exists_read_of_mem_finds {read : Reader α} (htakes : Takes read) {text : List Char}
    {value : α} (hmem : value ∈ finds read text) :
    ∃ before rest behind, read before rest = some (value, behind) := by
  obtain ⟨found, rest, hdivided⟩ := exists_divided htakes none text
  rw [hdivided.finds_eq] at hmem
  obtain ⟨find, hfind, rfl⟩ := List.mem_map.mp hmem
  exact hdivided.exists_read hfind

/-- The gaps of a division: the first one, and each find with the gap behind it. -/
def gapsOf : List (Find α) → List Char → List Char × List (α × List Char)
  | [], rest => (rest, [])
  | find :: finds, rest =>
    (find.gap, (find.value, (gapsOf finds rest).1) :: (gapsOf finds rest).2)

theorem divide_plain_append (gap : List Char) (pieces : List (Piece α)) :
    divide (gap.map Piece.plain ++ pieces) = (gap ++ (divide pieces).1, (divide pieces).2) := by
  induction gap with
  | nil => rfl
  | cons c gap ih =>
    rw [List.map_cons, List.cons_append, divide, ih]
    rfl

/-- The texts between the finds of a scan are the gaps of the division. -/
theorem Divided.divide_scan {read : Reader α} {text rest : List Char} {found : List (Find α)}
    (hdivided : Divided read none text found rest) :
    divide (scan read text) = gapsOf found rest := by
  rw [scan, hdivided.scanFrom_eq]
  clear hdivided
  induction found with
  | nil =>
    have hplain := divide_plain_append rest ([] : List (Piece α))
    rw [List.append_nil] at hplain
    rw [List.flatMap_nil, List.nil_append, hplain, divide, List.append_nil, gapsOf]
  | cons find found ih =>
    rw [List.flatMap_cons, Find.pieces, List.append_assoc, List.append_assoc, divide_plain_append,
      List.singleton_append, divide, ih, List.append_nil, gapsOf]

/-! ## Divisions in terms of the text alone -/

/-- What can stand in a text. -/
structure Grammar (σ : Type) where
  /-- Something stands at the front of the text. -/
  Begins : List Char → Prop
  /-- The thing can stand in a text. -/
  Admits : σ → Prop
  /-- The thing as it stands there. -/
  text : σ → List Char
  text_ne_nil : ∀ item, text item ≠ []
  text_injective : ∀ {first second}, text first = text second → first = second

namespace Grammar

variable {σ : Type}

/-- Nothing begins in the gap, when `behind` stands behind it. -/
def Vacant (grammar : Grammar σ) (gap behind : List Char) : Prop :=
  ∀ front back, gap = front ++ back → back ≠ [] → ¬ grammar.Begins (back ++ behind)

/-- A text is things that stand in it, each behind a gap, and a last gap, and nothing begins
in a gap. -/
inductive Divides (grammar : Grammar σ) : List Char → List (List Char × σ) → List Char → Prop where
  | last {gap} (hgap : grammar.Vacant gap []) : Divides grammar gap [] gap
  | item {gap item behind found rest} (hgap : grammar.Vacant gap (grammar.text item ++ behind))
      (hitem : grammar.Admits item) (hbehind : Divides grammar behind found rest) :
      Divides grammar (gap ++ (grammar.text item ++ behind)) ((gap, item) :: found) rest

/-- The reader reads what the grammar says, each thing as its value. -/
structure ReadBy (grammar : Grammar σ) (read : Reader α) (value : σ → α) : Prop where
  none_iff : ∀ {before text}, read before text = none ↔ ¬ grammar.Begins text
  some_iff : ∀ {before text found behind}, read before text = some (found, behind) ↔
    ∃ item, text = grammar.text item ++ behind ∧ grammar.Admits item ∧ found = value item

/-- A gap and a thing as a find of a scan. -/
def asFind (grammar : Grammar σ) (value : σ → α) (part : List Char × σ) : Find α where
  gap := part.1
  taken := grammar.text part.2
  value := value part.2

theorem asFind_injective (grammar : Grammar σ) (value : σ → α) :
    Function.Injective (grammar.asFind value) := by
  intro first second hsame
  have hitem := grammar.text_injective (congrArg Find.taken hsame)
  exact Prod.ext (congrArg Find.gap hsame) hitem

namespace ReadBy

variable {grammar : Grammar σ} {read : Reader α} {value : σ → α} {text rest : List Char}

theorem takes (hread : grammar.ReadBy read value) : Takes read := by
  intro before c text found behind hfound
  obtain ⟨item, htext, _⟩ := hread.some_iff.mp hfound
  obtain ⟨d, taken, hitem⟩ := List.exists_cons_of_ne_nil (grammar.text_ne_nil item)
  rw [hitem] at htext
  exact ⟨taken, (List.cons.inj htext).2⟩

theorem vacant_iff_silent (hread : grammar.ReadBy read value) {gap behind : List Char}
    (before : Option Char) : grammar.Vacant gap behind ↔ Silent read before gap behind := by
  constructor
  · intro hvacant front c back hsplit
    exact hread.none_iff.mpr (hvacant front (c :: back) hsplit (by simp))
  · intro hsilent front back hsplit hback
    cases back with
    | nil => exact absurd rfl hback
    | cons c back => exact hread.none_iff.mp (hsilent front c back hsplit)

/-- A division by the grammar is one of the scan. -/
theorem divided (hread : grammar.ReadBy read value) {found : List (List Char × σ)}
    (hdivides : grammar.Divides text found rest) (before : Option Char) :
    Divided read before text (found.map (grammar.asFind value)) rest := by
  induction hdivides generalizing before with
  | last hgap => exact .last ((hread.vacant_iff_silent before).mp hgap)
  | @item gap item behind _ _ hgap hitem _ ih =>
    exact .found (grammar.text_ne_nil item) ((hread.vacant_iff_silent before).mp hgap)
      (hread.some_iff.mpr ⟨item, rfl, hitem, rfl⟩) (ih _)

/-- A division of the scan is one by the grammar. -/
theorem exists_divides (hread : grammar.ReadBy read value) {before : Option Char}
    {finds : List (Find α)} (hdivided : Divided read before text finds rest) :
    ∃ found, finds = found.map (grammar.asFind value) ∧ grammar.Divides text found rest := by
  induction hdivided with
  | last hgap => exact ⟨[], rfl, .last ((hread.vacant_iff_silent _).mpr hgap)⟩
  | @find before gap c taken behind _ _ _ hgap hfind _ ih =>
    obtain ⟨found, rfl, hdivides⟩ := ih
    obtain ⟨item, htext, hitem, rfl⟩ := hread.some_iff.mp hfind
    have htaken : c :: taken = grammar.text item := List.append_cancel_right htext
    refine ⟨(gap, item) :: found, ?_, ?_⟩
    · rw [List.map_cons, htaken]
      rfl
    · rw [htext] at hgap ⊢
      exact .item ((hread.vacant_iff_silent before).mpr hgap) hitem hdivides

/-- A text has exactly one division by the grammar, and it is that of the scan. -/
theorem exists_division (hread : grammar.ReadBy read value) (text : List Char) :
    ∃ found rest, grammar.Divides text found rest ∧
      (∀ found' rest', grammar.Divides text found' rest' → found' = found ∧ rest' = rest) ∧
      text = found.flatMap (fun part => part.1 ++ grammar.text part.2) ++ rest := by
  obtain ⟨finds, rest, hdivided⟩ := exists_divided hread.takes none text
  obtain ⟨found, rfl, hdivides⟩ := hread.exists_divides hdivided
  refine ⟨found, rest, hdivides, fun found' rest' hother => ?_, ?_⟩
  · obtain ⟨hfound, hrest⟩ := (hread.divided hother none).unique hdivided
    exact ⟨List.map_injective_iff.mpr (grammar.asFind_injective value) hfound, hrest⟩
  · have htext := hdivided.text_eq
    rw [List.flatMap_map] at htext
    exact htext

end ReadBy

end Grammar

/-! ## Texts that no find crosses -/

/-- What is read in the text does not depend on what stands behind the text. -/
def Sealed (read : Reader α) (text : List Char) : Prop :=
  ∀ front back, text = front ++ back → back ≠ [] → ∀ before behind,
    read before (back ++ behind) =
      (read before back).map fun found => (found.1, found.2 ++ behind)

theorem Sealed.of_append {read : Reader α} {first second : List Char}
    (hsealed : Sealed read (first ++ second)) : Sealed read second := by
  intro front back hsplit
  exact hsealed (first ++ front) back (by rw [hsplit, List.append_assoc])

/-- A marker seals every text in front of it, if nothing is read in the rest of the marker
and what is read in front of the marker ends there at the latest. -/
theorem sealed_append {read : Reader α} {marker : List Char}
    (hrest : ∀ c ∈ marker.tail, ∀ before behind, read before (c :: behind) = none)
    (hends : ∀ before front behind, read before (front ++ marker ++ behind) =
      (read before (front ++ marker)).map fun found => (found.1, found.2 ++ behind))
    (text : List Char) : Sealed read (text ++ marker) := by
  intro front back hsplit hback before behind
  rcases List.append_eq_append_iff.mp hsplit with ⟨more, rfl, hmore⟩ | ⟨more, rfl, rfl⟩
  · cases more with
    | nil =>
      obtain rfl : marker = back := hmore
      exact hends before [] behind
    | cons d more =>
      cases back with
      | nil => exact absurd rfl hback
      | cons c back =>
        have hmem : c ∈ marker.tail := by
          rw [hmore]
          simp
        rw [List.cons_append, hrest c hmem, hrest c hmem]
        rfl
  · exact hends before more behind

theorem lastOf_append (before : Option Char) (first second : List Char) :
    lastOf before (first ++ second) = lastOf (lastOf before first) second := by
  induction first generalizing before with
  | nil => rfl
  | cons c first ih => exact ih (some c)

/-- A scan of a sealed text and of what stands behind it.  The induction is on the
length of the text, as in `exists_divided`. -/
theorem Sealed.scanFrom_append {read : Reader α} {text : List Char} (htakes : Takes read)
    (hsealed : Sealed read text) (before : Option Char) (behind : List Char) :
    scanFrom read before 0 (text ++ behind) =
      scanFrom read before 0 text ++ scanFrom read (lastOf before text) 0 behind := by
  induction hlength : text.length using Nat.strongRecOn generalizing before text with
  | ind length ih =>
    cases text with
    | nil => rfl
    | cons c text =>
      rw [List.length_cons] at hlength
      have hread := hsealed [] (c :: text) rfl (by simp) before behind
      cases hfound : read before (c :: text) with
      | none =>
        have hrest : Sealed read text := @Sealed.of_append _ _ [c] text hsealed
        rw [hfound, List.cons_append] at hread
        rw [List.cons_append, scanFrom_of_none hread, scanFrom_of_none hfound,
          ih text.length (by omega) hrest (some c) rfl]
        rfl
      | some found =>
        obtain ⟨value, rest⟩ := found
        obtain ⟨taken, rfl⟩ := htakes hfound
        have hrest : Sealed read rest := @Sealed.of_append _ _ (c :: taken) rest hsealed
        rw [hfound, List.cons_append, List.append_assoc] at hread
        rw [List.length_append] at hlength
        rw [List.cons_append, List.append_assoc, scanFrom_of_found hread,
          scanFrom_of_found hfound, ih rest.length (by omega) hrest _ rfl, lastOf, lastOf_append]
        rfl

/-- A reader that does not look at the character in front scans alike behind any. -/
theorem scanFrom_eq_of_forall {read : Reader α}
    (hblind : ∀ before other text, read before text = read other text)
    (before other : Option Char) (text : List Char) :
    scanFrom read before 0 text = scanFrom read other 0 text := by
  cases text with
  | nil => rfl
  | cons c text => rw [scanFrom, scanFrom, hblind before other]

/-- A silent gap in front of a text adds no find. -/
theorem Silent.finds_append {read : Reader α} {gap rest : List Char}
    (hblind : ∀ before other text, read before text = read other text)
    (hsilent : Silent read none gap rest) : finds read (gap ++ rest) = finds read rest := by
  rw [finds, scan, scanFrom_silent hsilent, scanFrom_eq_of_forall hblind (lastOf none gap) none,
    List.filterMap_append, filterMap_found?_plain]
  rfl

/-- A scan of a sealed text and of what stands behind it, by a reader that does not look at
the character in front. -/
theorem Sealed.scan_append {read : Reader α} {text : List Char} (htakes : Takes read)
    (hblind : ∀ before other text, read before text = read other text)
    (hsealed : Sealed read text) (behind : List Char) :
    scan read (text ++ behind) = scan read text ++ scan read behind := by
  rw [scan, hsealed.scanFrom_append htakes, scanFrom_eq_of_forall hblind (lastOf none text) none]
  rfl

/-- The finds of a sealed text and of what stands behind it. -/
theorem Sealed.finds_append {read : Reader α} {text : List Char} (htakes : Takes read)
    (hblind : ∀ before other text, read before text = read other text)
    (hsealed : Sealed read text) (behind : List Char) :
    finds read (text ++ behind) = finds read text ++ finds read behind := by
  rw [finds, hsealed.scan_append htakes hblind, List.filterMap_append]
  rfl

end Aviso.Text
