import Mathlib.Data.List.Basic
import Mathlib.Data.List.Induction
import Mathlib.Data.List.Nodup
import Aviso.Catalogue

/-!
# What a catalogue keeps

A catalogue is filled template by template, and a template that comes later
takes the place of an earlier one under its id.  `lastUnder?` says which template
that leaves under an id, in terms of the templates that were written alone.

* `Ordered` is the invariant of a catalogue: its ids are strictly ascending.
  `Ordered.insert` is the step that keeps it, and `ordered_ofList` the run.
* `Ordered.get?_eq_some_iff` and `Ordered.ext`: an ordered catalogue is what can be
  looked up in it.
* `get?_ofList`: a run leaves the last template under each id.
* `ofList_keeps_last` reads off what a filled catalogue lists and what it binds to
  an event.
-/

namespace Aviso

/-- A template that is bound to no event and has nothing but an id and a body. -/
def Template.plain (id body : String) : Template where
  id := id
  name := ""
  description := ""
  event := none
  entity := none
  body := body
  version := "1.0.0"
  engineMinVersion := "1.0.0"
  deprecated := false
  supersededBy := none

/-- The last of the templates under an id. -/
def lastUnder? (id : String) (written : List Template) : Option Template :=
  (written.filter fun template => template.id == id).getLast?

theorem lastUnder?_concat_self (written : List Template) (template : Template) :
    lastUnder? template.id (written ++ [template]) = some template := by
  simp [lastUnder?]

theorem lastUnder?_concat_of_ne (written : List Template) {template : Template} {id : String}
    (hdifferent : id ≠ template.id) :
    lastUnder? id (written ++ [template]) = lastUnder? id written := by
  have hother : ¬ template.id = id := fun hsame => hdifferent hsame.symm
  simp [lastUnder?, hother]

namespace Catalogue

variable {catalogue other : Catalogue} {id : String} {template : Template}

theorem get?_eq_none_iff :
    catalogue.get? id = none ↔ ∀ template ∈ catalogue.templates, template.id ≠ id := by
  simp [get?]

theorem id_of_get? (hget : catalogue.get? id = some template) : template.id = id := by
  simpa using List.find?_some hget

/-! ## The order of a catalogue -/

/-- The ids of the catalogue are strictly ascending, by code points. -/
def Ordered (catalogue : Catalogue) : Prop :=
  catalogue.templates.Pairwise fun first second => first.id < second.id

theorem ordered_empty : empty.Ordered :=
  List.Pairwise.nil

theorem eq_or_mem_of_mem_placed {other : Template} {templates : List Template}
    (hmem : other ∈ placed template templates) : other = template ∨ other ∈ templates := by
  induction templates with
  | nil => exact .inl (List.mem_singleton.mp hmem)
  | cons head templates ih =>
    unfold placed at hmem
    split at hmem
    · exact List.mem_cons.mp hmem
    · split at hmem
      · rcases List.mem_cons.mp hmem with rfl | hmem
        · exact .inl rfl
        · exact .inr (List.mem_cons_of_mem _ hmem)
      · rcases List.mem_cons.mp hmem with rfl | hmem
        · exact .inr List.mem_cons_self
        · exact (ih hmem).imp_right (List.mem_cons_of_mem _)

/-- One more template keeps the order. -/
theorem Ordered.insert (hordered : catalogue.Ordered) (template : Template) :
    (catalogue.insert template).Ordered := by
  obtain ⟨templates⟩ := catalogue
  simp only [Ordered, Catalogue.insert] at hordered ⊢
  induction templates with
  | nil => simp [placed]
  | cons head templates ih =>
    obtain ⟨hhead, htail⟩ := List.pairwise_cons.mp hordered
    unfold placed
    split
    · rename_i hbefore
      refine List.pairwise_cons.mpr ⟨?_, hordered⟩
      intro later hlater
      rcases List.mem_cons.mp hlater with rfl | hlater
      · exact hbefore
      · exact String.lt_trans hbefore (hhead later hlater)
    · split
      · rename_i hsame
        rw [← hsame] at hhead
        exact List.pairwise_cons.mpr ⟨hhead, htail⟩
      · rename_i hbefore hdifferent
        have hafter : head.id < template.id :=
          Std.lt_of_le_of_ne (String.not_lt.mp hbefore) (Ne.symm hdifferent)
        refine List.pairwise_cons.mpr ⟨?_, ih htail⟩
        intro later hlater
        rcases eq_or_mem_of_mem_placed hlater with rfl | hlater
        · exact hafter
        · exact hhead later hlater

/-- A catalogue that is filled in turn is ordered. -/
theorem ordered_ofList (written : List Template) : (ofList written).Ordered := by
  induction written using List.reverseRecOn with
  | nil => exact ordered_empty
  | append_singleton written template ih =>
    rw [ofList, List.foldl_concat]
    exact ih.insert template

/-! ## What can be looked up -/

/-- No two templates of an ordered catalogue share an id. -/
theorem Ordered.nodup_ids (hordered : catalogue.Ordered) :
    (catalogue.templates.map Template.id).Nodup := by
  rw [List.nodup_iff_pairwise_ne, List.pairwise_map]
  exact hordered.imp String.ne_of_lt

theorem Ordered.get?_eq_some_iff (hordered : catalogue.Ordered) :
    catalogue.get? id = some template ↔ template ∈ catalogue.templates ∧ template.id = id := by
  constructor
  · intro hget
    exact ⟨List.mem_of_find?_eq_some hget, id_of_get? hget⟩
  · rintro ⟨hmem, rfl⟩
    cases hget : catalogue.get? template.id with
    | none => exact absurd rfl (get?_eq_none_iff.mp hget template hmem)
    | some found =>
      have hfound := List.mem_of_find?_eq_some hget
      rw [List.inj_on_of_nodup_map hordered.nodup_ids hfound hmem (id_of_get? hget)]

theorem Ordered.mem_iff (hordered : catalogue.Ordered) :
    template ∈ catalogue.templates ↔ catalogue.get? template.id = some template := by
  simp [hordered.get?_eq_some_iff]

/-- The templates of an ordered catalogue are determined by which ones they are. -/
theorem Ordered.eq_of_perm (hordered : catalogue.Ordered) (hother : other.Ordered)
    (hperm : catalogue.templates.Perm other.templates) : catalogue = other := by
  obtain ⟨templates⟩ := catalogue
  obtain ⟨others⟩ := other
  congr 1
  refine hperm.eq_of_pairwise ?_ hordered hother
  intro first second _ _ hbefore hafter
  exact absurd hafter (String.lt_asymm hbefore)

/-- Ordered catalogues in which the same can be looked up are equal. -/
theorem Ordered.ext (hordered : catalogue.Ordered) (hother : other.Ordered)
    (hsame : ∀ id, catalogue.get? id = other.get? id) : catalogue = other := by
  apply hordered.eq_of_perm hother
  rw [List.perm_ext_iff_of_nodup (List.Nodup.of_map _ hordered.nodup_ids)
    (List.Nodup.of_map _ hother.nodup_ids)]
  intro template
  rw [hordered.mem_iff, hother.mem_iff, hsame]

/-! ## A run of insertions -/

/-- A run leaves the last template under each id. -/
theorem get?_ofList (written : List Template) (id : String) :
    (ofList written).get? id = lastUnder? id written := by
  induction written using List.reverseRecOn with
  | nil => rfl
  | append_singleton written template ih =>
    rw [ofList, List.foldl_concat, ← ofList]
    by_cases hsame : id = template.id
    · rw [hsame, get?_insert_self, lastUnder?_concat_self]
    · rw [get?_insert_of_ne _ hsame, lastUnder?_concat_of_ne _ hsame, ih]

theorem mem_ofList {written : List Template} :
    template ∈ (ofList written).templates ↔ lastUnder? template.id written = some template := by
  rw [(ordered_ofList written).mem_iff, get?_ofList]

theorem mem_boundTo {event : Event} {entity : Entity} :
    template ∈ catalogue.boundTo event entity ↔
      template ∈ catalogue.templates ∧ template.deprecated = false ∧
        template.event = some event ∧ template.entity = some entity := by
  simp [boundTo, and_assoc]

/-- The list of an ordered catalogue holds under an id what is looked up there, and
no more. -/
theorem Ordered.filter_id (hordered : catalogue.Ordered) (id : String) :
    catalogue.templates.filter (fun template => template.id == id) =
      (catalogue.get? id).toList := by
  cases hget : catalogue.get? id with
  | none =>
    have hfree := get?_eq_none_iff.mp hget
    rw [Option.toList_none, List.filter_eq_nil_iff]
    intro template hmem
    simpa using hfree template hmem
  | some found =>
    have hnodup := (List.Nodup.of_map _ hordered.nodup_ids).filter fun template => template.id == id
    rw [Option.toList_some, ← List.perm_singleton,
      List.perm_ext_iff_of_nodup hnodup (List.nodup_singleton found)]
    intro template
    rw [List.mem_filter, beq_iff_eq, ← hordered.get?_eq_some_iff, hget, List.mem_singleton,
      Option.some_inj, eq_comm]

/-- Under each id a filled catalogue keeps the last template that was written, which
is under its own id.  It lists these templates, one for each id, with their ids
strictly ascending, and what it binds to an event are those of the list that are
bound to it and not deprecated, in the order of the list.  So nothing else about the
order of writing matters. -/
theorem ofList_keeps_last (written : List Template) :
    (∀ id, (ofList written).get? id = lastUnder? id written ∧
      (∀ template, (ofList written).get? id = some template → template.id = id) ∧
      (ofList written).templates.filter (fun template => template.id == id) =
        (lastUnder? id written).toList) ∧
    (ofList written).templates.Pairwise (fun first second => first.id < second.id) ∧
    (∀ event entity,
      (ofList written).boundTo event entity = (ofList written).templates.filter fun template =>
        ¬ template.deprecated ∧ template.event = some event ∧ template.entity = some entity) ∧
    (∀ event entity template, template ∈ (ofList written).boundTo event entity ↔
      lastUnder? template.id written = some template ∧ template.deprecated = false ∧
        template.event = some event ∧ template.entity = some entity) ∧
    ∀ other, (∀ id, lastUnder? id written = lastUnder? id other) →
      ofList written = ofList other := by
  have hordered := ordered_ofList written
  refine ⟨?_, hordered, ?_, ?_, ?_⟩
  · intro id
    refine ⟨get?_ofList written id, fun template => id_of_get?, ?_⟩
    rw [hordered.filter_id, get?_ofList]
  · intro event entity
    apply List.filter_congr
    intro template _
    rw [Bool.eq_iff_iff]
    simp [and_assoc]
  · intro event entity template
    rw [mem_boundTo, mem_ofList]
  · intro other hsame
    apply hordered.ext (ordered_ofList other)
    intro id
    rw [get?_ofList, get?_ofList, hsame]

/-- A template that was written first and then replaced leaves nothing behind. -/
theorem ofList_keeps_last_replaced :
    (∀ id, lastUnder? id [.plain "b" "1", .plain "a" "2", .plain "b" "3"] =
      lastUnder? id [.plain "a" "2", .plain "b" "3"]) ∧
    ofList [.plain "b" "1", .plain "a" "2", .plain "b" "3"] =
      ofList [.plain "a" "2", .plain "b" "3"] := by
  have hsame (id : String) : lastUnder? id [.plain "b" "1", .plain "a" "2", .plain "b" "3"] =
      lastUnder? id [.plain "a" "2", .plain "b" "3"] := by
    by_cases hfirst : id = "b"
    · subst hfirst
      decide
    · simp [lastUnder?, Template.plain, Ne.symm hfirst]
  exact ⟨hsame, (ofList_keeps_last _).2.2.2.2 _ hsame⟩

end Catalogue

end Aviso
