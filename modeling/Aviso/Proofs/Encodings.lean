import Mathlib.Data.List.Forall2
import Aviso.Proofs.Catalogue
import Aviso.Proofs.Results
import Aviso.Proofs.Template

/-!
# The values that stand for a template

A template is written as one JSON value and read from many: the members of an object
come in any order, with others among them, fields with a default may be left off, and
an array of the fields may end before those at its end.

* `HasDefault` says when a field can be left off, and `Encoded` which values stand for a
  template.
* `ofValue_of_encoded`: every value that stands for a template is read as the template.
* `ofValue_encodings` names the values among them that writing gives, whole or with
  defaults left off.
-/

namespace Aviso.Template

open Json

variable {template : Template}

/-! ## What stands for a template -/

/-- The template has in the field what it is given when the field is left off. -/
def HasDefault (template : Template) : Field → Prop
  | .description => template.description = ""
  | .event => template.event = none
  | .entity => template.entity = none
  | .deprecated => template.deprecated = false
  | .supersededBy => template.supersededBy = none
  | .id | .name | .body | .version | .engineMinVersion => False

theorem holds_empty_iff {field : Field} :
    ({} : Draft).Holds template field ↔ template.HasDefault field := by
  cases field with
  | description | event | entity | deprecated | supersededBy => exact eq_comm
  | id | name | body | version | engineMinVersion => simp [Draft.Holds, HasDefault]

/-- The value stands for the template: every field is given by a value that stands for what
the template has there, or is left off and has its default. -/
inductive Encoded (template : Template) : Value → Prop where
  | object {members} (hstands : template.Stands members)
      (hleft : ∀ field : Field, field.key ∈ members.map Prod.fst ∨ template.HasDefault field) :
      Encoded template (.object members)
  | array {items} (hstands : List.Forall₂ template.StandsFor (Field.all.take items.length) items)
      (hleft : ∀ field ∈ Field.all.drop items.length, template.HasDefault field) :
      Encoded template (.array items)

/-! ## Reading -/

theorem ofValue_of_encoded {value : Value} (hencoded : template.Encoded value) :
    ofValue value = .ok template := by
  cases hencoded with
  | object hstands hleft =>
    exact template.reads_record.ofMembers_eq_ok hstands fun field =>
      (hleft field).imp_right holds_empty_iff.mpr
  | array hstands hleft =>
    exact template.reads_record.ofItems_eq_ok hstands fun field hdropped =>
      holds_empty_iff.mpr (hleft field hdropped)

/-! ## Writing -/

/-- The fields with their values but those that are left off. -/
def fieldsBut (template : Template) (left : List Field) : Members :=
  (Field.all.filter fun field => field ∉ left).map fun field => (field.key, template.get field)

theorem stands_fieldsBut (template : Template) (left : List Field) :
    template.Stands (template.fieldsBut left) := by
  intro member hmem field hkey
  obtain ⟨written, _, rfl⟩ := List.mem_map.mp hmem
  rw [Field.ofKey?_key] at hkey
  obtain rfl := Option.some.inj hkey
  exact .written written

theorem mem_keys_fieldsBut (template : Template) {left : List Field} {field : Field}
    (hkept : field ∉ left) : field.key ∈ (template.fieldsBut left).map Prod.fst := by
  have hmem : (field.key, template.get field) ∈ template.fieldsBut left :=
    List.mem_map_of_mem (List.mem_filter.mpr ⟨record.mem_fields field, by simpa using hkept⟩)
  exact List.mem_map_of_mem hmem

theorem encoded_fieldsBut {left : List Field} {unknown members : Members}
    (hleft : ∀ field ∈ left, template.HasDefault field)
    (hunknown : ∀ member ∈ unknown, Field.ofKey? member.1 = none)
    (hmembers : members.Perm (template.fieldsBut left ++ unknown)) :
    template.Encoded (.object members) := by
  constructor
  · intro member hmem field hkey
    rcases List.mem_append.mp (hmembers.mem_iff.mp hmem) with hfield | hother
    · exact template.stands_fieldsBut left member hfield field hkey
    · rw [hunknown member hother] at hkey
      exact absurd hkey (by simp)
  · intro field
    by_cases hmem : field ∈ left
    · exact .inr (hleft field hmem)
    · left
      rw [(hmembers.map Prod.fst).mem_iff, List.map_append]
      exact List.mem_append_left _ (template.mem_keys_fieldsBut hmem)

theorem encoded_toValue (template : Template) : template.Encoded template.toValue := by
  have hfields : template.fieldsBut [] ++ [] = template.fields := by
    simp [fieldsBut, fields]
  have hmembers := template.toMembers_perm
  rw [← hfields] at hmembers
  exact encoded_fieldsBut (by simp) (by simp) hmembers

theorem encoded_take {count : Nat}
    (hleft : ∀ field ∈ Field.all.drop count, template.HasDefault field) :
    template.Encoded (.array (template.toItems.take count)) := by
  have hlength : min (template.toItems.take count).length Field.all.length =
      min count Field.all.length := by
    rw [List.length_take, toItems, List.length_map]
    omega
  constructor
  · rw [List.take_eq_take_iff.mpr hlength, toItems, ← List.map_take, List.forall₂_map_right_iff]
    exact List.forall₂_same.mpr fun field _ => .written field
  · rw [List.drop_eq_drop_iff.mpr hlength]
    exact hleft

/-- A template is read from every value that stands for it.  These are: the object that is
written for it, which has the ten keys; this object in any order, with other members
and without fields that have their default; and the array of its fields, or a beginning of
it if those behind have their default.  So what is written for a value that was read is
read and written as it is. -/
theorem ofValue_encodings (template : Template) :
    (∀ value, template.Encoded value → ofValue value = .ok template) ∧
    (template.Encoded template.toValue ∧
      (template.toMembers.map Prod.fst).Perm
        ["id", "name", "description", "event", "entity", "body", "templateVersion",
          "engineMinVersion", "deprecated", "supersededBy"]) ∧
    (∀ left unknown members, (∀ field ∈ left, template.HasDefault field) →
      (∀ member ∈ unknown, Field.ofKey? member.1 = none) →
      members.Perm (template.fieldsBut left ++ unknown) → template.Encoded (.object members)) ∧
    (∀ count, (∀ field ∈ Field.all.drop count, template.HasDefault field) →
      template.Encoded (.array (template.toItems.take count))) ∧
    ∀ value written, (ofValue value).map toValue = .ok written →
      (ofValue written).map toValue = .ok written := by
  refine ⟨fun _ => ofValue_of_encoded,
    ⟨template.encoded_toValue, template.toMembers_perm.map Prod.fst⟩,
    fun _ _ _ => encoded_fieldsBut, fun _ => encoded_take, ?_⟩
  intro value written hwritten
  obtain ⟨read, _, rfl⟩ := map_eq_ok_iff.mp hwritten
  rw [ofValue_of_encoded read.encoded_toValue]
  rfl

/-- A template with defaults, as an object without them that has a member of its own, as an
array of eight items, and with its event under a key. -/
theorem ofValue_encodings_short :
    let template := { Template.plain "cierre" "[BASE]x[FIN]" with event := some .creation }
    let left : List Field := [.deprecated, .description, .entity, .supersededBy]
    let unknown : Members := [("autor", .array [.null])]
    let short := template.fieldsBut left ++ unknown
    let keyed := ("event", .object [("creation", .null)]) :: template.fieldsBut (.event :: left)
    (∀ field ∈ left, template.HasDefault field) ∧
      (∀ member ∈ unknown, Field.ofKey? member.1 = none) ∧
      ofValue (.object short) = .ok template ∧
      (∀ field ∈ Field.all.drop 8, template.HasDefault field) ∧
      ofValue (.array (template.toItems.take 8)) = .ok template ∧
      template.Encoded (.object keyed) ∧ ofValue (.object keyed) = .ok template := by
  intro template left unknown short keyed
  have hleft : ∀ field ∈ left, template.HasDefault field := by
    simp [left, template, Template.plain, HasDefault]
  have hunknown : ∀ member ∈ unknown, Field.ofKey? member.1 = none := by
    intro member hmem
    obtain rfl := List.mem_singleton.mp hmem
    decide
  have hdropped : ∀ field ∈ Field.all.drop 8, template.HasDefault field := by
    simp [Field.all, template, Template.plain, HasDefault]
  have hkeyed : template.Encoded (.object keyed) := by
    constructor
    · intro member hmem field hkey
      rcases List.mem_cons.mp hmem with rfl | hmem
      · obtain rfl : Field.event = field := Option.some.inj hkey
        exact @StandsFor.event template .creation rfl
      · exact template.stands_fieldsBut _ member hmem field hkey
    · intro field
      by_cases hfield : field ∈ left
      · exact .inr (hleft field hfield)
      · by_cases hevent : field = .event
        · subst hevent
          exact .inl List.mem_cons_self
        · have hkept : field ∉ Field.event :: left := by
            rw [List.mem_cons, not_or]
            exact ⟨hevent, hfield⟩
          exact .inl (List.mem_cons_of_mem _ (template.mem_keys_fieldsBut hkept))
  obtain ⟨hread, _, hobject, harray, _⟩ := ofValue_encodings template
  exact ⟨hleft, hunknown, hread _ (hobject left unknown short hleft hunknown (.refl _)), hdropped,
    hread _ (harray 8 hdropped), hkeyed, hread _ hkeyed⟩

end Aviso.Template
