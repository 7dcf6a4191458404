import Mathlib.Data.List.TakeWhile
import Aviso.Text.Cut

/-!
# Where a marker stands

`Aviso.Text.Cut` says what `after?` and `cut?` return.  This file says when they
return it, in the words of list prefixes and infixes, so that no later proof
opens either of them.

* `after?_eq_none_iff` and `cut?_eq_none_iff`: the two failures; `isSome_after?_iff` and
  `isSome_cut?_iff` say the same of success.
* `cut?_append`: a text in front of the marker is what `cut?` returns, as long
  as the marker does not begin in it.  A marker can begin in the text and end in
  the marker behind it, so the text is looked at together with all of the marker
  but its last character.
* `not_infix_append_dropLast`: for a marker whose last character stands nowhere
  else in it, the text alone is enough.
* `infix_of_infix_append` and `eq_of_append_begins`: a marker does not stand in a
  text without its first character, and nothing but the text in front of its
  first place stands in front of it there.
* `infix_of_infix_between`: nor does it reach to a character around the text that it
  does not hold.
* `mem_of_afterAny?`, `length_le_of_afterAny?` and `afterAny?_append`: of several
  markers the one found is among them, is the longest that fits, and is the one
  at the front.
* `span_append` and `exists_span`: a run of characters of one kind ends where the
  next character is not of that kind.
-/

namespace Aviso.Text

/-! ## A marker at the front -/

theorem after?_eq_none_iff {marker text : List Char} :
    after? marker text = none ↔ ¬ marker <+: text := by
  constructor
  · rintro hnone ⟨behind, rfl⟩
    rw [after?_append] at hnone
    exact absurd hnone (by simp)
  · intro hbegins
    cases hfound : after? marker text with
    | none => rfl
    | some behind =>
      exact absurd ⟨behind, (after?_eq_some_iff.mp hfound).symm⟩ hbegins

theorem isSome_after?_iff {marker text : List Char} :
    (after? marker text).isSome = true ↔ marker <+: text := by
  cases hfound : after? marker text with
  | none => simpa using after?_eq_none_iff.mp hfound
  | some behind => simpa using ⟨behind, (after?_eq_some_iff.mp hfound).symm⟩

/-- A marker does not reach over a character that it does not hold. -/
theorem begins_of_not_mem {marker front back : List Char} {c : Char}
    (hbegins : marker <+: front ++ c :: back) (hfree : c ∉ marker) : marker <+: front := by
  rcases hbegins with ⟨rest, hrest⟩
  rcases List.append_eq_append_iff.mp hrest with ⟨more, rfl, _⟩ | ⟨more, rfl, hmore⟩
  · exact ⟨more, rfl⟩
  · cases more with
    | nil => exact ⟨[], by rw [List.append_nil, List.append_nil]⟩
    | cons d more =>
      obtain ⟨rfl, _⟩ := List.cons.inj hmore
      exact absurd (by simp) hfree

/-! ## The first occurrence of a marker -/

theorem cut?_cons_of_not_begins {marker text : List Char} {c : Char}
    (hbegins : ¬ marker <+: c :: text) :
    cut? marker (c :: text) =
      (cut? marker text).map fun parts => (c :: parts.1, parts.2) := by
  rw [cut?, after?_eq_none_iff.mpr hbegins]

theorem cut?_marker_append {marker : List Char} (hmarker : marker ≠ []) (behind : List Char) :
    cut? marker (marker ++ behind) = some ([], behind) := by
  cases marker with
  | nil => exact absurd rfl hmarker
  | cons m marker =>
    rw [List.cons_append, cut?, ← List.cons_append, after?_append]

theorem cut?_eq_none_iff {marker text : List Char} (hmarker : marker ≠ []) :
    cut? marker text = none ↔ ¬ marker <:+: text := by
  induction text with
  | nil =>
    rw [List.infix_nil]
    cases marker with
    | nil => exact absurd rfl hmarker
    | cons m marker => simp [cut?, after?]
  | cons c text ih =>
    rw [List.infix_cons_iff, not_or]
    by_cases hbegins : marker <+: c :: text
    · rcases hbegins with ⟨behind, hbehind⟩
      rw [← hbehind, cut?_marker_append hmarker]
      simp
    · rw [cut?_cons_of_not_begins hbegins, Option.map_eq_none_iff, ih]
      simp [hbegins]

theorem isSome_cut?_iff {marker text : List Char} :
    (cut? marker text).isSome = true ↔ marker <:+: text := by
  cases marker with
  | nil => cases text <;> simp [cut?, after?]
  | cons m marker =>
    rw [← not_iff_not, Option.not_isSome_iff_eq_none, cut?_eq_none_iff (List.cons_ne_nil m marker)]

/-- The marker does not begin in front of its first occurrence, not even to end
in it. -/
theorem not_infix_append_of_cut? {marker text before behind : List Char} (hmarker : marker ≠ [])
    (hfound : cut? marker text = some (before, behind)) :
    ¬ marker <:+: before ++ marker.dropLast := by
  intro hinfix
  rcases hinfix with ⟨front, back, hwhole⟩
  have hlength := congrArg List.length hwhole
  simp only [List.length_append, List.length_dropLast] at hlength
  have hpositive : 0 < marker.length := List.length_pos_iff.mpr hmarker
  rw [List.append_assoc] at hwhole
  rcases List.append_eq_append_iff.mp hwhole with ⟨inside, rfl, hinside⟩ | ⟨inside, rfl, _⟩
  · have hsome : inside ≠ [] := by
      rintro rfl
      rw [List.append_nil] at hlength
      omega
    have hnone := after?_eq_none_iff.mp (first_of_cut? hfound rfl hsome)
    have hbegins : marker <+: inside ++ marker.dropLast := ⟨back, hinside⟩
    rw [List.append_assoc] at hnone
    have hlast : marker.dropLast <+: marker ++ behind :=
      (List.dropLast_prefix marker).trans (List.prefix_append marker behind)
    exact hnone (hbegins.trans (List.prefix_append_right_inj inside |>.mpr hlast))
  · rw [List.length_append] at hlength
    omega

/-- The part before the first occurrence holds no occurrence. -/
theorem not_infix_of_cut? {marker text before behind : List Char} (hmarker : marker ≠ [])
    (hfound : cut? marker text = some (before, behind)) : ¬ marker <:+: before := fun hin =>
  not_infix_append_of_cut? hmarker hfound (hin.trans (List.prefix_append before _).isInfix)

/-- A marker that begins in `before` is at the front of a text of at least its
own length, so it stands in that text together with its own beginning. -/
theorem cut?_append {marker before : List Char} (hmarker : marker ≠ [])
    (hinside : ¬ marker <:+: before ++ marker.dropLast) (behind : List Char) :
    cut? marker (before ++ (marker ++ behind)) = some (before, behind) := by
  induction before with
  | nil => exact cut?_marker_append hmarker behind
  | cons c before ih =>
    have hbegins : ¬ marker <+: c :: (before ++ (marker ++ behind)) := by
      intro hbegins
      have hlength : marker.length ≤ (c :: before ++ marker.dropLast).length := by
        simp only [List.length_append, List.length_cons, List.length_dropLast]
        omega
      have hshort : c :: before ++ marker.dropLast <+: c :: (before ++ (marker ++ behind)) := by
        refine ⟨[marker.getLast hmarker] ++ behind, ?_⟩
        rw [← List.append_assoc, List.append_assoc (c :: before),
          List.dropLast_concat_getLast hmarker]
        simp
      exact hinside (List.prefix_of_prefix_length_le hbegins hshort hlength).isInfix
    have hrest : ¬ marker <:+: before ++ marker.dropLast := fun hin =>
      hinside (hin.trans (List.suffix_cons c _).isInfix)
    rw [List.cons_append, cut?_cons_of_not_begins hbegins, ih hrest]
    rfl

/-- A marker whose last character stands nowhere else in it cannot begin in a
text and end in the marker behind it. -/
theorem not_infix_append_dropLast {marker before : List Char} (hmarker : marker ≠ [])
    (hlast : marker.getLast hmarker ∉ marker.dropLast) (hbefore : ¬ marker <:+: before) :
    ¬ marker <:+: before ++ marker.dropLast := by
  intro hinfix
  rcases hinfix with ⟨front, back, hwhole⟩
  rcases List.append_eq_append_iff.mp hwhole with ⟨rest, rfl, _⟩ | ⟨rest, hfront, hmiddle⟩
  · exact hbefore ⟨front, rest, rfl⟩
  · cases hrest : rest.getLast? with
    | none =>
      rw [List.getLast?_eq_none_iff.mp hrest, List.append_nil] at hfront
      exact hbefore ⟨front, [], by rw [List.append_nil, hfront]⟩
    | some last =>
      have hend : (front ++ marker).getLast? = some last := by
        rw [hfront, List.getLast?_append, hrest]
        rfl
      rw [List.getLast?_append, List.getLast?_eq_some_getLast hmarker] at hend
      have hmem : last ∈ marker.dropLast := by
        rw [hmiddle]
        exact List.mem_append_left back (List.mem_of_getLast? hrest)
      rw [← Option.some.inj hend] at hmem
      exact hlast hmem

/-- A marker whose first character does not stand in `front` begins behind it. -/
theorem infix_of_infix_append {first : Char} {marker front back : List Char}
    (hfree : first ∉ front) (hwithin : first :: marker <:+: front ++ back) :
    first :: marker <:+: back := by
  induction front with
  | nil => exact hwithin
  | cons c front ih =>
    rw [List.mem_cons, not_or] at hfree
    rcases List.infix_cons_iff.mp hwithin with hbegins | hwithin
    · exact absurd (List.cons_prefix_cons.mp hbegins).1 hfree.1
    · exact ih hfree.2 hwithin

/-- A marker does not reach to characters around a text that it does not hold. -/
theorem infix_of_infix_between {marker text : List Char} {first last : Char}
    (hfirst : first ∉ marker) (hlast : last ∉ marker)
    (hwithin : marker <:+: first :: text ++ [last]) : marker <:+: text := by
  cases marker with
  | nil => exact List.nil_infix
  | cons m marker =>
    have hhead : m ∉ [first] := by
      rw [List.mem_singleton]
      rintro rfl
      exact hfirst List.mem_cons_self
    have hbehind : m :: marker <:+: text ++ [last] := infix_of_infix_append hhead hwithin
    rcases List.infix_concat_iff.mp hbehind with hends | hinside
    · rcases List.suffix_concat_iff.mp hends with hnone | ⟨front, hfront, _⟩
      · exact absurd hnone (List.cons_ne_nil m marker)
      · rw [hfront] at hlast
        exact absurd List.mem_concat_self hlast
    · exact hinside

/-- A text that holds no such marker is the text in front of each marker with which it
goes on. -/
theorem eq_of_append_begins {marker front before : List Char} (hmarker : marker ≠ [])
    (hlast : marker.getLast hmarker ∉ marker.dropLast) (hbefore : ¬ marker <:+: before)
    (hbegins : front ++ marker <+: before ++ marker) : front = before := by
  have hinside := not_infix_append_dropLast hmarker hlast hbefore
  rcases hbegins with ⟨rest, hrest⟩
  cases rest with
  | nil =>
    rw [List.append_nil] at hrest
    exact List.append_cancel_right hrest
  | cons c rest =>
    have hshort := congrArg List.dropLast hrest
    rw [List.dropLast_append_of_ne_nil (by simp), List.dropLast_append_of_ne_nil hmarker] at hshort
    refine absurd ⟨front, (c :: rest).dropLast, ?_⟩ hinside
    rw [hshort]

/-! ## The first of several markers -/

section Markers

variable {α : Type} {markers : List (List Char × α)} {text behind : List Char} {value : α}

theorem afterAny?_eq_none_iff :
    afterAny? markers text = none ↔ ∀ marker ∈ markers, ¬ marker.1 <+: text := by
  induction markers with
  | nil => simp [afterAny?]
  | cons marker markers ih =>
    rw [List.forall_mem_cons, ← after?_eq_none_iff, ← ih, afterAny?]
    cases after? marker.1 text <;> simp

theorem mem_of_afterAny? (hfound : afterAny? markers text = some (value, behind)) :
    ∃ marker, (marker, value) ∈ markers ∧ text = marker ++ behind := by
  induction markers with
  | nil => exact absurd hfound (by simp [afterAny?])
  | cons head markers ih =>
    rw [afterAny?] at hfound
    cases hafter : after? head.1 text with
    | some rest =>
      rw [hafter] at hfound
      obtain ⟨rfl, rfl⟩ := Prod.mk.inj (Option.some.inj hfound)
      exact ⟨head.1, List.mem_cons_self, after?_eq_some_iff.mp hafter⟩
    | none =>
      rw [hafter] at hfound
      obtain ⟨marker, hmem, htext⟩ := ih hfound
      exact ⟨marker, List.mem_cons_of_mem _ hmem, htext⟩

/-- In a list that holds no marker behind a proper beginning of it, the marker
that is found is the longest that fits. -/
theorem length_le_of_afterAny?
    (hordered : markers.Pairwise fun first second => first.1 <+: second.1 → first.1 = second.1)
    (hfound : afterAny? markers text = some (value, behind)) {marker : List Char × α}
    (hmem : marker ∈ markers) (hbegins : marker.1 <+: text) :
    marker.1.length + behind.length ≤ text.length := by
  induction markers with
  | nil => exact absurd hmem (by simp)
  | cons head markers ih =>
    obtain ⟨hhead, htail⟩ := List.pairwise_cons.mp hordered
    rw [afterAny?] at hfound
    cases hafter : after? head.1 text with
    | some rest =>
      rw [hafter] at hfound
      obtain ⟨_, rfl⟩ := Prod.mk.inj (Option.some.inj hfound)
      have htext := after?_eq_some_iff.mp hafter
      have hlength : marker.1.length ≤ head.1.length := by
        rcases List.mem_cons.mp hmem with rfl | hmem
        · exact Nat.le_refl _
        · rcases List.prefix_or_prefix_of_prefix hbegins ⟨rest, htext.symm⟩ with hle | hle
          · exact hle.length_le
          · exact Nat.le_of_eq (congrArg List.length (hhead marker hmem hle).symm)
      rw [htext, List.length_append]
      omega
    | none =>
      rw [hafter] at hfound
      rcases List.mem_cons.mp hmem with rfl | hmem
      · exact absurd hbegins (after?_eq_none_iff.mp hafter)
      · exact ih htail hfound hmem

/-- Where no marker begins another, a marker at the front is the one found. -/
theorem afterAny?_append
    (hapart : markers.Pairwise fun first second => ¬ first.1 <+: second.1 ∧ ¬ second.1 <+: first.1)
    {marker : List Char} (hmem : (marker, value) ∈ markers) (behind : List Char) :
    afterAny? markers (marker ++ behind) = some (value, behind) := by
  induction markers with
  | nil => exact absurd hmem (by simp)
  | cons head markers ih =>
    obtain ⟨hhead, htail⟩ := List.pairwise_cons.mp hapart
    rw [afterAny?]
    rcases List.mem_cons.mp hmem with rfl | hmem
    · rw [after?_append]
    · have hnone : after? head.1 (marker ++ behind) = none := by
        rw [after?_eq_none_iff]
        intro hbegins
        rcases List.prefix_or_prefix_of_prefix hbegins (List.prefix_append marker behind) with
          hle | hle
        · exact (hhead _ hmem).1 hle
        · exact (hhead _ hmem).2 hle
      rw [hnone]
      exact ih htail hmem

end Markers

/-! ## Runs of characters -/

theorem span_append {belongs : Char → Bool} {run rest : List Char}
    (hrun : ∀ c ∈ run, belongs c = true) (hrest : ∀ c ∈ rest.head?, belongs c = false) :
    (run ++ rest).takeWhile belongs = run ∧ (run ++ rest).dropWhile belongs = rest := by
  rw [List.takeWhile_append_of_pos hrun, List.dropWhile_append_of_pos hrun]
  cases rest with
  | nil => simp
  | cons c rest => simp [hrest c rfl]

/-- Characters that are not of a kind do not stand in a run of it. -/
theorem not_mem_of_run {belongs : Char → Bool} {others run : List Char}
    (hothers : others.any belongs = false) (hrun : ∀ c ∈ run, belongs c = true) :
    ∀ c ∈ run, c ∉ others := by
  intro c hmem hother
  exact List.any_eq_false.mp hothers c hother (hrun c hmem)

theorem exists_span (belongs : Char → Bool) (text : List Char) :
    ∃ run rest, text = run ++ rest ∧ (∀ c ∈ run, belongs c = true) ∧
      ∀ c ∈ rest.head?, belongs c = false := by
  refine ⟨text.takeWhile belongs, text.dropWhile belongs,
    List.takeWhile_append_dropWhile.symm, fun c hmem => List.mem_takeWhile_imp hmem, ?_⟩
  intro c hmem
  have hstop := List.head?_dropWhile_not belongs text
  rw [hmem] at hstop
  exact hstop

end Aviso.Text
