import Aviso.Catalogue
import Aviso.Render
import Aviso.Version

/-!
# Messages

A request to render is answered with a message.  A failed rendering is a message
too; only a template that is not in the catalogue, or that needs another engine,
leaves a request without one.

* `renderAdHoc` renders a text outside the catalogue;
* `Catalogue.render` renders a template of the catalogue, where a request that
  names no event or kind takes those that the template is bound to;
* `Message.members` is a message as JSON holds it.
-/

namespace Aviso

open Json

/-- The version of this engine. -/
def engineVersion : String := "1.0.0"

/-- What a rendering is asked for with. -/
structure Request where
  context : Context := {}
  event : Option Event := none
  entity : Option Entity := none
deriving Repr

/-! ## Reading a request -/

namespace Request

/-- A field of a request. -/
inductive Field where
  | context
  | event
  | entity
deriving Repr, DecidableEq

namespace Field

/-- The fields in the order of the array form. -/
def all : List Field :=
  [context, event, entity]

def key : Field → String
  | context => "context"
  | event => "event"
  | entity => "entity"

end Field

/-- The fields read so far. -/
structure Draft where
  context : Option Context := none
  event : Option Event := none
  entity : Option Entity := none

/-- The context that a value is. -/
def contextOf (value : Value) : Except DecodeError Context :=
  value.toMembers.map fun members => { members }

def Draft.set (draft : Draft) (field : Field) (value : Value) : Except DecodeError Draft :=
  match field with
  | .context => (contextOf value).map fun context => { draft with context := some context }
  | .event => (Template.eventOf value).map fun event => { draft with event }
  | .entity => (Template.entityOf value).map fun entity => { draft with entity }

/-- The request of a draft, or the field that it lacks. -/
def Draft.finish (draft : Draft) : Except Field Request :=
  match draft.context with
  | some context => .ok { context, event := draft.event, entity := draft.entity }
  | none => .error .context

/-- How a request is read from a JSON value. -/
def record : Record Field Draft Request where
  name := "RenderRequest"
  fields := Field.all
  key := Field.key
  empty := {}
  set := Draft.set
  finish := Draft.finish
  mem_fields field := by cases field <;> decide
  key_injective {first second} same := by
    revert same
    cases first <;> cases second <;> decide

/-- The request that a JSON value stands for.  In an array the last two fields may be left
off. -/
def ofValue (value : Value) : Except DecodeError Request :=
  record.ofValue value

/-- What the conditions of a template may look at. -/
def scope (request : Request) : Scope :=
  { context := request.context, event := request.event, entity := request.entity }

/-- The request with the event and the kind of a template where it names none. -/
def withDefaults (request : Request) (template : Template) : Request :=
  { context := request.context
    event := request.event <|> template.event
    entity := request.entity <|> template.entity }

end Request

/-! ## Answering a request -/

/-- What became of a rendering. -/
inductive Status where
  | rendered
  | noMatch
  | failed
deriving Repr, DecidableEq

def Status.name : Status → String
  | rendered => "rendered"
  | noMatch => "no_match"
  | failed => "failed"

theorem Status.name_injective {left right : Status} (same : left.name = right.name) :
    left = right := by
  revert same
  cases left <;> cases right <;> decide

/-- The answer to a request.  A rendered message has a body and a failed one an error. -/
structure Message where
  templateId : Option String
  templateVersion : Option String
  status : Status
  body : Option String
  error : Option String
deriving Repr, DecidableEq

namespace Message

/-- The message of an outcome. -/
def ofOutcome (template : Option Template) (outcome : Outcome) : Message :=
  let templateId := template.map Template.id
  let templateVersion := template.map Template.version
  match outcome with
  | .rendered text =>
    { templateId, templateVersion, status := .rendered, body := some text, error := none }
  | .noMatch => { templateId, templateVersion, status := .noMatch, body := none, error := none }
  | .failed failure =>
    { templateId, templateVersion, status := .failed, body := none, error := some failure.message }

end Message

/-- Renders a text outside the catalogue. -/
def renderAdHoc (text : String) (request : Request) : Message :=
  .ofOutcome none (render text request.scope)

/-- Why a template of the catalogue is not rendered. -/
inductive RenderError where
  | templateNotFound (id : String)
  | invalidVersion (error : VersionError)
  | engineTooOld (templateVersion engineMinVersion : String)
deriving Repr, DecidableEq

def RenderError.message : RenderError → String
  | templateNotFound id => "Template not found: " ++ id
  | invalidVersion error => "Invalid version: " ++ error.message
  | engineTooOld templateVersion engineMinVersion =>
    "Template version " ++ templateVersion ++ " requires engine >= " ++ engineMinVersion ++
      ", current is " ++ engineVersion

/-- Refuses a template that needs a later engine. -/
def requireEngine (template : Template) : Except RenderError Unit := do
  let engine ← (Version.parse engineVersion).mapError .invalidVersion
  let least ← (Version.parse template.engineMinVersion).mapError .invalidVersion
  if engine.compare least = .lt then
    .error (.engineTooOld template.version template.engineMinVersion)
  else .ok ()

/-- Renders a template of the catalogue. -/
def Catalogue.render (catalogue : Catalogue) (id : String) (request : Request) :
    Except RenderError Message :=
  match catalogue.get? id with
  | none => .error (.templateNotFound id)
  | some template => do
    requireEngine template
    let request := request.withDefaults template
    return .ofOutcome (some template) (Aviso.render template.body request.scope)

/-! ## Writing a message -/

/-- What tells two messages apart that say the same. -/
structure Stamp where
  id : String
  renderedAt : String
deriving Repr, DecidableEq

namespace Message

/-- A member for a text, if there is one. -/
def present (key : String) : Option String → Members
  | some text => [(key, .string text)]
  | none => []

/-- What a message says, without a stamp. -/
def content (message : Message) : Members :=
  [("status", .string message.status.name)] ++ present "body" message.body ++
    present "error" message.error

/-- What a message tells about its origin. -/
def origin (message : Message) : Members :=
  [("template_id", ofOption .string message.templateId),
    ("template_version", ofOption .string message.templateVersion),
    ("engine_version", .string engineVersion)]

/-- A message as JSON holds it, in the order in which it is written. -/
def members (message : Message) (stamp : Stamp) : Members :=
  ("id", .string stamp.id) :: message.origin ++
    ("rendered_at", .string stamp.renderedAt) :: message.content

end Message

end Aviso
