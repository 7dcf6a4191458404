import Aviso.Proofs.Json.Decode
import Aviso.Proofs.Json.Record
import Aviso.Template

/-!
# Reading templates back

A template is read field by field into a draft.  `Draft.Holds` says that a draft
has in a field what the template has there, and carries the reading:

* `Draft.exists_set`: after the value of a field the draft holds that field, and
  the others as before.  `StandsFor` names the other values that are read like it.
* `reads_record`: so a template is read from values that stand for it.
* `WrittenAs` says which texts are those of a template, and
  `exists_document_of_writtenAs` that they are read back.
-/

namespace Aviso.Template

open Json

variable {template : Template}

/-! ## Values of fields -/

/-- A choice that may be missing is read back if its texts are. -/
theorem toOption_ofOption {α : Type} {decode : Value → Except DecodeError α} {text : α → String}
    (hdecode : ∀ choice, decode (.string (text choice)) = .ok choice) (value : Option α) :
    Value.toOption decode (ofOption (fun choice => .string (text choice)) value) = .ok value := by
  cases value with
  | none => rfl
  | some choice => simp [ofOption, Value.toOption, hdecode, Except.map]

theorem eventOf_get (template : Template) : eventOf (template.get .event) = .ok template.event :=
  toOption_ofOption (fun event => by simp [Value.toChoice, Value.named]) _

theorem entityOf_get (template : Template) :
    entityOf (template.get .entity) = .ok template.entity :=
  toOption_ofOption (fun kind => by simp [Value.toChoice, Value.named]) _

theorem supersededBy_get (template : Template) :
    Value.toOption Value.toText (template.get .supersededBy) = .ok template.supersededBy :=
  toOption_ofOption (fun _ => rfl) _

/-- A field holds a text, a truth value or null. -/
theorem scalar_get (template : Template) (field : Field) :
    ∃ document, Scalar (template.get field) document := by
  cases field with
  | id | name | description | body | version | engineMinVersion => exact ⟨_, .string _⟩
  | deprecated => exact ⟨_, .bool _⟩
  | event => exact exists_scalar_ofOption Event.name template.event
  | entity => exact exists_scalar_ofOption Entity.name template.entity
  | supersededBy => exact exists_scalar_ofOption (fun text => text) template.supersededBy

/-! ## Drafts -/

/-- The draft has in the field what the template has there. -/
def Draft.Holds (draft : Draft) (template : Template) : Field → Prop
  | .id => draft.id = some template.id
  | .name => draft.name = some template.name
  | .description => draft.description = template.description
  | .event => draft.event = template.event
  | .entity => draft.entity = template.entity
  | .body => draft.body = some template.body
  | .version => draft.version = some template.version
  | .engineMinVersion => draft.engineMinVersion = some template.engineMinVersion
  | .deprecated => draft.deprecated = template.deprecated
  | .supersededBy => draft.supersededBy = template.supersededBy

/-- The value of a field is read, and of the draft no other field is changed. -/
theorem Draft.exists_set (draft : Draft) (template : Template) (field : Field) :
    ∃ next, draft.set field (template.get field) = .ok next ∧
      ∀ other, next.Holds template other ↔ other = field ∨ draft.Holds template other := by
  cases field <;>
    refine ⟨_, by simp only [Draft.set, eventOf_get, entityOf_get, supersededBy_get]; rfl, ?_⟩ <;>
    intro other <;> cases other <;> simp [Draft.Holds]

/-- The value stands for what the template has in the field: it is written for it, or holds
null under the name of the event or of the kind. -/
inductive StandsFor (template : Template) : Field → Value → Prop where
  | written (field : Field) : StandsFor template field (template.get field)
  | event {event} (hevent : template.event = some event) :
      StandsFor template .event (.object [(event.name, .null)])
  | entity {kind} (hentity : template.entity = some kind) :
      StandsFor template .entity (.object [(kind.name, .null)])

/-- A value that stands for the field is read as the value of the field is. -/
theorem Draft.exists_set_of_standsFor (draft : Draft) {field : Field} {value : Value}
    (hstands : template.StandsFor field value) :
    ∃ next, draft.set field value = .ok next ∧
      ∀ other, next.Holds template other ↔ other = field ∨ draft.Holds template other := by
  cases hstands with
  | written => exact draft.exists_set template field
  | @event event hevent =>
    have hset : draft.set .event (.object [(event.name, .null)]) =
        .ok { draft with event := some event } := by
      simp [Draft.set, eventOf, Value.toOption, Value.toChoice, Value.named, Except.map, bind,
        Except.bind, pure, Except.pure]
    refine ⟨_, hset, fun other => ?_⟩
    cases other <;> simp [Draft.Holds, hevent]
  | @entity kind hentity =>
    have hset : draft.set .entity (.object [(kind.name, .null)]) =
        .ok { draft with entity := some kind } := by
      simp [Draft.set, entityOf, Value.toOption, Value.toChoice, Value.named, Except.map, bind,
        Except.bind, pure, Except.pure]
    refine ⟨_, hset, fun other => ?_⟩
    cases other <;> simp [Draft.Holds, hentity]

/-- Each of the members is no field or stands for what the template has there. -/
def Stands (template : Template) (members : Members) : Prop :=
  ∀ member ∈ members, ∀ field, Field.ofKey? member.1 = some field →
    template.StandsFor field member.2

/-- Each of the members is no field or has what the template has there. -/
def Gives (template : Template) (members : Members) : Prop :=
  ∀ member ∈ members, ∀ field, Field.ofKey? member.1 = some field → member.2 = template.get field

theorem Gives.stands {members : Members} (hgives : template.Gives members) :
    template.Stands members := by
  intro member hmem field hkey
  rw [hgives member hmem field hkey]
  exact .written field

/-- A draft that holds every field is that of the template. -/
theorem Draft.finish_eq_ok {draft : Draft} (hholds : ∀ field, draft.Holds template field) :
    draft.finish = .ok template := by
  obtain ⟨id, name, description, event, entity, body, version, engineMinVersion, deprecated,
    supersededBy⟩ := draft
  obtain rfl : id = some template.id := hholds .id
  obtain rfl : name = some template.name := hholds .name
  obtain rfl : description = template.description := hholds .description
  obtain rfl : event = template.event := hholds .event
  obtain rfl : entity = template.entity := hholds .entity
  obtain rfl : body = some template.body := hholds .body
  obtain rfl : version = some template.version := hholds .version
  obtain rfl : engineMinVersion = some template.engineMinVersion := hholds .engineMinVersion
  obtain rfl : deprecated = template.deprecated := hholds .deprecated
  obtain rfl : supersededBy = template.supersededBy := hholds .supersededBy
  rfl

/-- Values that stand for a template are read as the template. -/
theorem reads_record (template : Template) :
    record.Reads template (fun draft field => draft.Holds template field) template.StandsFor where
  set draft _ _ := draft.exists_set_of_standsFor
  finish := Draft.finish_eq_ok

/-! ## Texts of templates -/

theorem fieldValue?_of_scalar {value : Value} {document : Document}
    (hscalar : Scalar value document) : fieldValue? document = some value := by
  cases hscalar <;> rfl

/-- Fields under different keys are all kept. -/
theorem fieldMembers?_of_readAs {members : Members} {documents : List (Option String × Document)}
    (hread : ReadAs members documents)
    (hfields : ∀ key ∈ members.map Prod.fst, (Field.ofKey? key).isSome)
    (hkeys : (members.map Prod.fst).Nodup) : fieldMembers? documents = some members := by
  induction hread with
  | nil => rfl
  | @cons member document members documents hmember _ ih =>
    obtain ⟨key, document⟩ := document
    obtain ⟨rfl, hscalar⟩ := hmember
    obtain ⟨hfield, hfields⟩ := List.forall_mem_cons.mp hfields
    obtain ⟨hfree, hkeys⟩ := List.nodup_cons.mp hkeys
    have hknown : Field.ofKey? member.1 ≠ none := Option.isSome_iff_ne_none.mp hfield
    have hunused : members.any (fun field => field.1 == member.1) = false := by
      rw [List.any_eq_false]
      intro other hother
      have hkey : other.1 ∈ members.map Prod.fst := List.mem_map_of_mem hother
      rw [beq_iff_eq]
      exact fun hsame => hfree (hsame ▸ hkey)
    rw [fieldMembers?]
    simp [ih hfields hkeys, hknown, hunused, fieldValue?_of_scalar hscalar]

/-- The fields of a template with their values, as they are declared. -/
def fields (template : Template) : Members :=
  Field.all.map fun field => (field.key, template.get field)

theorem fields_ne_nil (template : Template) : template.fields ≠ [] := by
  simp [fields, Field.all]

theorem map_fst_fields (template : Template) :
    template.fields.map Prod.fst = Field.all.map Field.key := by
  simp [fields]

theorem nodup_keys : (Field.all.map Field.key).Nodup := by
  decide

theorem scalars_fields (template : Template) : Scalars template.fields := by
  intro member hmem
  obtain ⟨field, _, rfl⟩ := List.mem_map.mp hmem
  exact scalar_get template field

theorem gives_fields (template : Template) : template.Gives template.fields := by
  intro member hmem field hkey
  obtain ⟨written, _, rfl⟩ := List.mem_map.mp hmem
  rw [Field.ofKey?_key] at hkey
  rw [Option.some.inj hkey]

/-- The text is a JSON object with the fields of the template, in any order. -/
def WrittenAs (template : Template) (text : String) : Prop :=
  ∃ members, members.Perm template.fields ∧ ObjectText members text

/-- A text of a template is read as a document that holds the template. -/
theorem exists_document_of_writtenAs {text : String} (hwritten : template.WrittenAs text) :
    ∃ document, Document.read? text = some document ∧ ofDocument? document = some template := by
  obtain ⟨members, hperm, htext⟩ := hwritten
  obtain ⟨documents, hread, hmembers⟩ := read?_of_objectText htext
  have hkeys : (members.map Prod.fst).Perm (Field.all.map Field.key) := by
    rw [← template.map_fst_fields]
    exact hperm.map Prod.fst
  have hfields : ∀ key ∈ members.map Prod.fst, (Field.ofKey? key).isSome := by
    intro key hmem
    obtain ⟨field, _, rfl⟩ := List.mem_map.mp (hkeys.mem_iff.mp hmem)
    simp
  have hgives : template.Gives members := fun member hmem =>
    template.gives_fields member (hperm.mem_iff.mp hmem)
  have hall (field : Field) : field.key ∈ members.map Prod.fst :=
    hkeys.mem_iff.mpr (List.mem_map_of_mem (record.mem_fields field))
  have htemplate : record.ofMembers members = .ok template :=
    template.reads_record.ofMembers_eq_ok hgives.stands fun field => .inl (hall field)
  refine ⟨_, hread, ?_⟩
  simp [ofDocument?, fieldMembers?_of_readAs hmembers hfields (hkeys.nodup_iff.mpr nodup_keys),
    htemplate, Except.toOption]

/-- Sorting the keys of the fields loses none of them. -/
theorem toMembers_perm (template : Template) : template.toMembers.Perm template.fields := by
  apply Members.ofList_perm
  rw [← fields, map_fst_fields]
  exact nodup_keys

/-- A template is written with its fields as they are declared or with sorted keys, and
without spaces or on several lines. -/
theorem writtenAs_print (template : Template) :
    template.WrittenAs (Value.object template.fields).print ∧
      template.WrittenAs (Value.object template.fields).printLines ∧
      template.WrittenAs template.toValue.print ∧ template.WrittenAs template.toValue.printLines := by
  have hperm := template.toMembers_perm
  have hscalars : Scalars template.toMembers := fun member hmem =>
    template.scalars_fields member (hperm.mem_iff.mp hmem)
  have hsome : template.toMembers ≠ [] := fun hempty =>
    template.fields_ne_nil (List.nil_perm.mp (hempty ▸ hperm))
  have hdeclared := template.fields_ne_nil
  have hvalues := template.scalars_fields
  refine ⟨⟨_, .refl _, ?_⟩, ⟨_, .refl _, ?_⟩, ⟨_, hperm, ?_⟩, ⟨_, hperm, ?_⟩⟩
  · simpa using objectText_print space_nil hdeclared hvalues
  · simpa using objectText_printLines space_nil hdeclared hvalues
  · simpa [toValue] using objectText_print space_nil hsome hscalars
  · simpa [toValue] using objectText_printLines space_nil hsome hscalars

end Aviso.Template
