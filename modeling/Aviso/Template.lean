import Aviso.Context
import Aviso.Json.Decode
import Aviso.Json.Document

/-!
# Templates of the catalogue

A template is a body with what the catalogue knows about it.  It is written as a
JSON object with a member for each field, and read from three forms: an object in
which unknown members are ignored and fields with a default may be missing, an
array of the fields in order, and the text of a file.

* `Template.ofValue` and `Template.toValue` read and write a JSON value;
* `Template.ofDocument?` reads a JSON text, which may hold anything under keys
  that are no fields, and must not give a field twice.
-/

namespace Aviso

open Json

/-- A template of the catalogue. -/
structure Template where
  id : String
  name : String
  description : String
  /-- The event that the template is bound to, if any. -/
  event : Option Event
  entity : Option Entity
  body : String
  version : String
  /-- The least engine version that can render the template. -/
  engineMinVersion : String
  deprecated : Bool
  supersededBy : Option String
deriving Repr, DecidableEq

namespace Template

/-- A field of a template. -/
inductive Field where
  | id
  | name
  | description
  | event
  | entity
  | body
  | version
  | engineMinVersion
  | deprecated
  | supersededBy
deriving Repr, DecidableEq

namespace Field

/-- The fields in the order of the array form. -/
def all : List Field :=
  [id, name, description, event, entity, body, version, engineMinVersion, deprecated, supersededBy]

/-- The key of the field in the object form. -/
def key : Field → String
  | id => "id"
  | name => "name"
  | description => "description"
  | event => "event"
  | entity => "entity"
  | body => "body"
  | version => "templateVersion"
  | engineMinVersion => "engineMinVersion"
  | deprecated => "deprecated"
  | supersededBy => "supersededBy"

end Field

/-! ## Reading -/

/-- The fields read so far; those with a default begin with it. -/
structure Draft where
  id : Option String := none
  name : Option String := none
  description : String := ""
  event : Option Event := none
  entity : Option Entity := none
  body : Option String := none
  version : Option String := none
  engineMinVersion : Option String := none
  deprecated : Bool := false
  supersededBy : Option String := none
deriving Repr, DecidableEq

/-- The event that a value names, if it is not null. -/
def eventOf : Value → Except DecodeError (Option Event) :=
  Value.toOption (Value.toChoice (Event.all.map Event.name) Event.ofName?)

/-- The kind that a value names, if it is not null. -/
def entityOf : Value → Except DecodeError (Option Entity) :=
  Value.toOption (Value.toChoice (Entity.all.map Entity.name) Entity.ofName?)

/-- The draft with the value of a field. -/
def Draft.set (draft : Draft) (field : Field) (value : Value) : Except DecodeError Draft :=
  match field with
  | .id => value.toText.map fun text => { draft with id := some text }
  | .name => value.toText.map fun text => { draft with name := some text }
  | .description => value.toText.map fun text => { draft with description := text }
  | .event => (eventOf value).map fun event => { draft with event }
  | .entity => (entityOf value).map fun entity => { draft with entity }
  | .body => value.toText.map fun text => { draft with body := some text }
  | .version => value.toText.map fun text => { draft with version := some text }
  | .engineMinVersion => value.toText.map fun text => { draft with engineMinVersion := some text }
  | .deprecated => value.toBool.map fun deprecated => { draft with deprecated }
  | .supersededBy =>
    (Value.toOption Value.toText value).map fun supersededBy => { draft with supersededBy }

/-- The template of a draft, or the first field that it lacks. -/
def Draft.finish (draft : Draft) : Except Field Template := do
  let need (field : Field) (value : Option String) : Except Field String :=
    match value with
    | some text => .ok text
    | none => .error field
  return {
    id := ← need .id draft.id
    name := ← need .name draft.name
    description := draft.description
    event := draft.event
    entity := draft.entity
    body := ← need .body draft.body
    version := ← need .version draft.version
    engineMinVersion := ← need .engineMinVersion draft.engineMinVersion
    deprecated := draft.deprecated
    supersededBy := draft.supersededBy }

/-- How a template is read from a JSON value. -/
def record : Record Field Draft Template where
  name := "NotificationTemplate"
  fields := Field.all
  key := Field.key
  empty := {}
  set := Draft.set
  finish := Draft.finish
  mem_fields field := by cases field <;> decide
  key_injective {first second} same := by
    revert same
    cases first <;> cases second <;> decide

/-- The field of a key in the object form. -/
def Field.ofKey? (key : String) : Option Field :=
  record.ofKey? key

@[simp] theorem Field.ofKey?_key (field : Field) : ofKey? field.key = some field :=
  Record.ofKey?_eq_some_iff.mpr rfl

/-- The template that a JSON value stands for. -/
def ofValue (value : Value) : Except DecodeError Template :=
  record.ofValue value

/-! ## Reading a file -/

/-- The value of a field in a text.  An object can only stand for a choice, so it
has one key, written once. -/
def fieldValue? (document : Document) : Option Value :=
  match document with
  | .object members => if members.length = 1 then document.value? .stepwise else none
  | _ => document.value? .stepwise

/-- The members of an object in a text that are fields; none is given twice. -/
def fieldMembers? : List (Option String × Document) → Option Members
  | [] => some []
  | (key, document) :: members => do
    let key ← key
    let fields ← fieldMembers? members
    if (Field.ofKey? key).isNone then return fields
    else if fields.any fun field => field.1 == key then none
    else return (key, ← fieldValue? document) :: fields

/-- The template that a JSON text holds, if it holds one. -/
def ofDocument? : Document → Option Template
  | .object members => do
    let fields ← fieldMembers? members
    (record.ofMembers fields).toOption
  | .array items => do
    let values ← items.mapM fieldValue?
    (record.ofItems values).toOption
  | _ => none

/-! ## Writing -/

/-- The value of a field. -/
def get (template : Template) : Field → Value
  | .id => .string template.id
  | .name => .string template.name
  | .description => .string template.description
  | .event => ofOption (fun event => .string event.name) template.event
  | .entity => ofOption (fun kind => .string kind.name) template.entity
  | .body => .string template.body
  | .version => .string template.version
  | .engineMinVersion => .string template.engineMinVersion
  | .deprecated => .bool template.deprecated
  | .supersededBy => ofOption .string template.supersededBy

/-- The members of the object form. -/
def toMembers (template : Template) : Members :=
  Members.ofList (Field.all.map fun field => (field.key, template.get field))

/-- The object form. -/
def toValue (template : Template) : Value :=
  .object template.toMembers

/-- The array form. -/
def toItems (template : Template) : List Value :=
  Field.all.map template.get

end Template

end Aviso
