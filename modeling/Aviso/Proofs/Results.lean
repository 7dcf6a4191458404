import Mathlib.Data.List.Forall2

/-!
# Results of a list

A list is read item by item, and the first item with an error is the error of the
whole list.

* `mapM_eq_ok_iff` and `mapM_eq_error_iff` say so for every reader of items;
  `map_eq_ok_iff`, `map_eq_error_iff`, `bind_eq_ok_iff` and `bind_eq_error_iff` are about
  one result.
* `mapM_congr`: readers that read the items of a list alike read the list alike.
* `mapM_filter_eq_error_iff`: items without an error can be left out where only
  the error counts.
* `mapM_append_flatten` and `mapM_flatMap_flatten`: lists can be read one behind the
  other, and items that come in groups group by group.
-/

namespace Aviso

variable {α β ε : Type} {f : α → Except ε β}

theorem map_eq_ok_iff {g : α → β} {result : Except ε α} {value : β} :
    result.map g = .ok value ↔ ∃ item, result = .ok item ∧ g item = value := by
  cases result <;> simp [Except.map]

theorem map_eq_error_iff {g : α → β} {result : Except ε α} {error : ε} :
    result.map g = .error error ↔ result = .error error := by
  cases result <;> simp [Except.map]

theorem bind_eq_ok_iff {γ : Type} {result : Except ε α} {next : α → Except ε γ} {value : γ} :
    result >>= next = .ok value ↔ ∃ item, result = .ok item ∧ next item = .ok value := by
  cases result <;> simp [bind, Except.bind]

theorem bind_eq_error_iff {γ : Type} {result : Except ε α} {next : α → Except ε γ} {error : ε} :
    result >>= next = .error error ↔
      result = .error error ∨ ∃ item, result = .ok item ∧ next item = .error error := by
  cases result <;> simp [bind, Except.bind]

theorem mapM_cons_of_ok {item : α} {value : β} (hitem : f item = .ok value) (items : List α) :
    (item :: items).mapM f = (items.mapM f).map fun values => value :: values := by
  rw [List.mapM_cons, hitem]
  cases items.mapM f <;> rfl

theorem mapM_cons_of_error {item : α} {error : ε} (hitem : f item = .error error)
    (items : List α) : (item :: items).mapM f = .error error := by
  rw [List.mapM_cons, hitem]
  rfl

/-- An item with a value in front of a list is not its error. -/
theorem mapM_cons_eq_error_iff {item : α} {value : β} (hitem : f item = .ok value)
    (items : List α) {error : ε} :
    (item :: items).mapM f = .error error ↔ items.mapM f = .error error := by
  rw [mapM_cons_of_ok hitem]
  cases items.mapM f <;> simp [Except.map]

theorem mapM_congr {g : α → Except ε β} {items : List α}
    (hsame : ∀ item ∈ items, f item = g item) : items.mapM f = items.mapM g := by
  induction items with
  | nil => rfl
  | cons item items ih =>
    obtain ⟨hitem, hitems⟩ := List.forall_mem_cons.mp hsame
    rw [List.mapM_cons, List.mapM_cons, hitem, ih hitems]

/-- A list has values exactly when each of its items has one. -/
theorem mapM_eq_ok_iff {items : List α} {values : List β} :
    items.mapM f = .ok values ↔
      List.Forall₂ (fun item value => f item = .ok value) items values := by
  induction items generalizing values with
  | nil =>
    rw [List.forall₂_nil_left_iff]
    constructor
    · intro hvalues
      exact (Except.ok.inj hvalues).symm
    · rintro rfl
      rfl
  | cons item items ih =>
    rw [List.forall₂_cons_left_iff]
    cases hitem : f item with
    | error error =>
      rw [mapM_cons_of_error hitem]
      simp
    | ok value =>
      rw [mapM_cons_of_ok hitem]
      constructor
      · intro hvalues
        cases hrest : items.mapM f with
        | error error =>
          rw [hrest] at hvalues
          exact absurd hvalues (by simp [Except.map])
        | ok rest =>
          rw [hrest] at hvalues
          exact ⟨value, rest, rfl, ih.mp hrest, (Except.ok.inj hvalues).symm⟩
      · intro hvalues
        rcases hvalues with ⟨first, rest, hfirst, hrest, rfl⟩
        rw [ih.mpr hrest, Except.ok.inj hfirst]
        rfl

/-- A list has an error exactly when it is the error of the first item that has
one. -/
theorem mapM_eq_error_iff {items : List α} {error : ε} :
    items.mapM f = .error error ↔
      ∃ passed item later, items = passed ++ item :: later ∧
        (∀ earlier ∈ passed, ∃ value, f earlier = .ok value) ∧ f item = .error error := by
  induction items with
  | nil =>
    constructor
    · intro herror
      exact absurd herror (by simp [pure, Except.pure])
    · intro hfirst
      rcases hfirst with ⟨passed, item, later, hitems, _⟩
      exact absurd hitems (by simp)
  | cons first items ih =>
    cases hfirst : f first with
    | error other =>
      rw [mapM_cons_of_error hfirst]
      constructor
      · intro herror
        refine ⟨[], first, items, rfl, by simp, ?_⟩
        rw [hfirst, Except.error.inj herror]
      · intro hsplit
        rcases hsplit with ⟨passed, item, later, hitems, hpassed, hitem⟩
        cases passed with
        | nil =>
          obtain ⟨rfl, _⟩ := List.cons.inj hitems
          rw [Except.error.inj (hfirst.symm.trans hitem)]
        | cons head passed =>
          obtain ⟨rfl, _⟩ := List.cons.inj hitems
          obtain ⟨value, hvalue⟩ := hpassed first List.mem_cons_self
          rw [hfirst] at hvalue
          exact absurd hvalue (by simp)
    | ok value =>
      rw [mapM_cons_eq_error_iff hfirst, ih]
      constructor
      · intro hsplit
        rcases hsplit with ⟨passed, item, later, rfl, hpassed, hitem⟩
        exact ⟨first :: passed, item, later, rfl,
          List.forall_mem_cons.mpr ⟨⟨value, hfirst⟩, hpassed⟩, hitem⟩
      · intro hsplit
        rcases hsplit with ⟨passed, item, later, hitems, hpassed, hitem⟩
        cases passed with
        | nil =>
          obtain ⟨rfl, _⟩ := List.cons.inj hitems
          rw [hfirst] at hitem
          exact absurd hitem (by simp)
        | cons head passed =>
          obtain ⟨rfl, rfl⟩ := List.cons.inj hitems
          exact ⟨passed, item, later, rfl, (List.forall_mem_cons.mp hpassed).2, hitem⟩

/-- A list has some error exactly when some item has one. -/
theorem exists_mapM_eq_error_iff {items : List α} :
    (∃ error, items.mapM f = .error error) ↔
      ∃ item ∈ items, ∃ error, f item = .error error := by
  constructor
  · rintro ⟨error, herror⟩
    obtain ⟨passed, item, later, rfl, _, hitem⟩ := mapM_eq_error_iff.mp herror
    exact ⟨item, by simp, error, hitem⟩
  · rintro ⟨item, hmem, error, hitem⟩
    cases hread : items.mapM f with
    | error first => exact ⟨first, rfl⟩
    | ok values =>
      obtain ⟨index, hindex, rfl⟩ := List.mem_iff_getElem.mp hmem
      have hvalue := (mapM_eq_ok_iff.mp hread).get hindex
        ((mapM_eq_ok_iff.mp hread).length_eq ▸ hindex)
      exact absurd (hitem.symm.trans hvalue) (by simp)

/-- Where every item that is left out has a value, the error of a list is the error
of the items that are kept. -/
theorem mapM_filter_eq_error_iff {keep : α → Bool} {items : List α} {error : ε}
    (hleft : ∀ item ∈ items, keep item = false → ∃ value, f item = .ok value) :
    (items.filter keep).mapM f = .error error ↔ items.mapM f = .error error := by
  induction items with
  | nil => rfl
  | cons item items ih =>
    obtain ⟨hitem, hitems⟩ := List.forall_mem_cons.mp hleft
    have hrest := ih hitems
    cases hkeep : keep item with
    | true =>
      rw [List.filter_cons_of_pos hkeep]
      cases hread : f item with
      | error other => rw [mapM_cons_of_error hread, mapM_cons_of_error hread]
      | ok value => rw [mapM_cons_eq_error_iff hread, mapM_cons_eq_error_iff hread, hrest]
    | false =>
      obtain ⟨value, hread⟩ := hitem hkeep
      have hdropped : ¬ keep item = true := by simp [hkeep]
      rw [List.filter_cons_of_neg hdropped, mapM_cons_eq_error_iff hread, hrest]

/-- Lists that are read one behind the other. -/
theorem mapM_append_flatten {read : α → Except ε (List β)} (first second : List α) :
    ((first ++ second).mapM read).map List.flatten =
      ((first.mapM read).map List.flatten).bind fun front =>
        ((second.mapM read).map List.flatten).map fun back => front ++ back := by
  rw [List.mapM_append]
  cases first.mapM read with
  | error error => rfl
  | ok fronts =>
    cases second.mapM read with
    | error error => rfl
    | ok backs => simp [Except.map, bind, Except.bind, pure, Except.pure]

/-- Reading every item of a group, one group after another, is reading the groups. -/
theorem mapM_flatMap_flatten {γ δ : Type} {read : γ → Except ε (List δ)} {group : α → List γ}
    {readGroup : α → Except ε (List δ)}
    (hgroups : ∀ item, ((group item).mapM read).map List.flatten = readGroup item)
    (items : List α) :
    ((items.flatMap group).mapM read).map List.flatten =
      (items.mapM readGroup).map List.flatten := by
  induction items with
  | nil => rfl
  | cons item items ih =>
    rw [List.flatMap_cons, mapM_append_flatten, hgroups, ih]
    cases hitem : readGroup item with
    | error error =>
      rw [mapM_cons_of_error hitem]
      rfl
    | ok values =>
      rw [mapM_cons_of_ok hitem]
      cases items.mapM readGroup <;> rfl

end Aviso
