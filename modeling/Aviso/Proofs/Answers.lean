import Aviso.Message
import Aviso.Proofs.Catalogue

/-!
# How requests are answered

A template of the catalogue is rendered as its text is rendered outside of it.

* `Message.Consistent`: the status of a message says whether it holds a body or an
  error, whatever the outcome that the message is made of.
* `requireEngine_eq_ok_iff` and `requireEngine_eq_error_iff`: whether a template is
  refused depends on the version that it needs, and on nothing else.
* `Catalogue.render_eq_error_iff` and `Catalogue.render_eq_ok_iff`: what a request is
  answered with once its template is found.
* `Catalogue.render_refines_renderAdHoc` puts them together.
-/

namespace Aviso

/-! ## Messages -/

namespace Message

/-- A message has a body exactly if it is rendered, and an error exactly if it is
failed. -/
structure Consistent (message : Message) : Prop where
  body : message.body.isSome = true ↔ message.status = .rendered
  error : message.error.isSome = true ↔ message.status = .failed

theorem consistent_ofOutcome (template : Option Template) (outcome : Outcome) :
    (ofOutcome template outcome).Consistent := by
  cases outcome with
  | rendered | noMatch | failed => exact ⟨by simp [ofOutcome], by simp [ofOutcome]⟩

/-- The message with a template as its origin. -/
def sentBy (message : Message) (template : Template) : Message :=
  { message with templateId := some template.id, templateVersion := some template.version }

theorem ofOutcome_some (template : Template) (outcome : Outcome) :
    ofOutcome (some template) outcome = (ofOutcome none outcome).sentBy template := by
  cases outcome <;> rfl

theorem Consistent.sentBy {message : Message} (hconsistent : message.Consistent)
    (template : Template) : (message.sentBy template).Consistent :=
  ⟨hconsistent.body, hconsistent.error⟩

end Message

/-! ## The version that a template needs -/

/-- The template needs an engine that comes after this one. -/
def Template.NeedsLaterEngine (template : Template) : Prop :=
  ∃ engine least, Version.parse engineVersion = .ok engine ∧
    Version.parse template.engineMinVersion = .ok least ∧ least.compare engine = .gt

theorem exists_engine : ∃ engine, Version.parse engineVersion = .ok engine :=
  ⟨{ major := 1, minor := 0, patch := 0 }, rfl⟩

section Engine

variable {template : Template}

theorem needsLaterEngine_iff {engine least : Version}
    (hengine : Version.parse engineVersion = .ok engine)
    (hleast : Version.parse template.engineMinVersion = .ok least) :
    template.NeedsLaterEngine ↔ engine.compare least = .lt := by
  rw [← Version.compare_swap, Ordering.swap_eq_lt]
  constructor
  · intro hneeds
    obtain ⟨engine', least', hengine', hleast', hlater⟩ := hneeds
    obtain rfl := Except.ok.inj (hengine.symm.trans hengine')
    obtain rfl := Except.ok.inj (hleast.symm.trans hleast')
    exact hlater
  · intro hlater
    exact ⟨engine, least, hengine, hleast, hlater⟩

theorem not_needsLaterEngine_of_error {error : VersionError}
    (hparse : Version.parse template.engineMinVersion = .error error) :
    ¬ template.NeedsLaterEngine := by
  intro hneeds
  obtain ⟨engine, least, _, hleast, _⟩ := hneeds
  rw [hparse] at hleast
  exact absurd hleast (by simp)

theorem requireEngine_of_error {error : VersionError}
    (hparse : Version.parse template.engineMinVersion = .error error) :
    requireEngine template = .error (.invalidVersion error) := by
  obtain ⟨engine, hengine⟩ := exists_engine
  simp only [requireEngine, hengine, hparse]
  rfl

theorem requireEngine_of_ok {engine least : Version}
    (hengine : Version.parse engineVersion = .ok engine)
    (hleast : Version.parse template.engineMinVersion = .ok least) :
    requireEngine template =
      if engine.compare least = .lt then
        .error (.engineTooOld template.version template.engineMinVersion)
      else .ok () := by
  simp only [requireEngine, hengine, hleast]
  rfl

theorem requireEngine_eq_ok_iff :
    requireEngine template = .ok () ↔
      (∃ least, Version.parse template.engineMinVersion = .ok least) ∧
        ¬ template.NeedsLaterEngine := by
  obtain ⟨engine, hengine⟩ := exists_engine
  cases hparse : Version.parse template.engineMinVersion with
  | error error => simp [requireEngine_of_error hparse]
  | ok least =>
    rw [requireEngine_of_ok hengine hparse, needsLaterEngine_iff hengine hparse]
    simp

theorem requireEngine_eq_error_iff {error : RenderError} :
    requireEngine template = .error error ↔
      (∃ invalid, Version.parse template.engineMinVersion = .error invalid ∧
        error = .invalidVersion invalid) ∨
      (template.NeedsLaterEngine ∧
        error = .engineTooOld template.version template.engineMinVersion) := by
  obtain ⟨engine, hengine⟩ := exists_engine
  cases hparse : Version.parse template.engineMinVersion with
  | error invalid =>
    rw [requireEngine_of_error hparse]
    simp [not_needsLaterEngine_of_error hparse, eq_comm]
  | ok least =>
    rw [requireEngine_of_ok hengine hparse, needsLaterEngine_iff hengine hparse]
    by_cases hlater : engine.compare least = .lt
    · simp [hlater, @eq_comm _ error]
    · simp [hlater]

end Engine

/-! ## Requests -/

theorem Request.withDefaults_eq (request : Request) (template : Template) :
    request.withDefaults template =
      { request with
        event := request.event.or template.event
        entity := request.entity.or template.entity } := by
  simp [withDefaults]

namespace Catalogue

variable {catalogue : Catalogue} {id : String} {template : Template} {request : Request}

theorem render_of_get?_eq_none (hget : catalogue.get? id = none) :
    catalogue.render id request = .error (.templateNotFound id) := by
  rw [render, hget]

/-- Once the template of a request is found, only the version that it needs can
refuse the request.  A failure of the rendering stays in the message. -/
theorem render_of_get? (hget : catalogue.get? id = some template) :
    catalogue.render id request = (requireEngine template).map fun _ =>
      (renderAdHoc template.body (request.withDefaults template)).sentBy template := by
  simp only [render, hget, renderAdHoc, ← Message.ofOutcome_some]
  cases requireEngine template <;> rfl

theorem render_eq_error_iff (hget : catalogue.get? id = some template) {error : RenderError} :
    catalogue.render id request = .error error ↔
      (∃ invalid, Version.parse template.engineMinVersion = .error invalid ∧
        error = .invalidVersion invalid) ∨
      (template.NeedsLaterEngine ∧
        error = .engineTooOld template.version template.engineMinVersion) := by
  rw [← requireEngine_eq_error_iff, render_of_get? hget]
  cases requireEngine template <;> simp [Except.map]

theorem render_eq_ok_iff (hget : catalogue.get? id = some template) {message : Message} :
    catalogue.render id request = .ok message ↔
      (∃ least, Version.parse template.engineMinVersion = .ok least) ∧
        ¬ template.NeedsLaterEngine ∧
        message = (renderAdHoc template.body (request.withDefaults template)).sentBy template := by
  rw [← and_assoc, ← requireEngine_eq_ok_iff, render_of_get? hget]
  cases requireEngine template <;> simp [Except.map, eq_comm]

theorem render_eq_templateNotFound_iff {missing : String} :
    catalogue.render id request = .error (.templateNotFound missing) ↔
      missing = id ∧ ∀ template ∈ catalogue.templates, template.id ≠ id := by
  rw [← get?_eq_none_iff]
  cases hget : catalogue.get? id with
  | none => simp [render_of_get?_eq_none hget, eq_comm]
  | some template => simp [render_eq_error_iff hget]

theorem consistent_of_render {message : Message}
    (hrender : catalogue.render id request = .ok message) : message.Consistent := by
  cases hget : catalogue.get? id with
  | none =>
    rw [render_of_get?_eq_none hget] at hrender
    exact absurd hrender (by simp)
  | some template =>
    obtain ⟨_, _, rfl⟩ := (render_eq_ok_iff hget).mp hrender
    exact (Message.consistent_ofOutcome none _).sentBy template

/-- A request is refused if its template is not in the catalogue, then if the
version that the template needs cannot be read, and then if that version comes
after the one of this engine, the builds of the two included.  Every other request
is answered, for a deprecated template too, with the message of the text of the
template; each of the event and the entity is that of the template where the
request has none.  A failed rendering is such a message and no refusal. -/
theorem render_refines_renderAdHoc (catalogue : Catalogue) (id : String) (request : Request) :
    (∀ missing, catalogue.render id request = .error (.templateNotFound missing) ↔
      missing = id ∧ ∀ template ∈ catalogue.templates, template.id ≠ id) ∧
    (∀ template, catalogue.get? id = some template →
      template.id = id ∧
      (∀ error, catalogue.render id request = .error (.invalidVersion error) ↔
        Version.parse template.engineMinVersion = .error error) ∧
      (∀ version least, catalogue.render id request = .error (.engineTooOld version least) ↔
        version = template.version ∧ least = template.engineMinVersion ∧
          template.NeedsLaterEngine) ∧
      (∀ message, catalogue.render id request = .ok message ↔
        (∃ least, Version.parse template.engineMinVersion = .ok least) ∧
          ¬ template.NeedsLaterEngine ∧
          message =
            { renderAdHoc template.body
                { context := request.context
                  event := request.event.or template.event
                  entity := request.entity.or template.entity } with
              templateId := some template.id
              templateVersion := some template.version })) ∧
    (∀ version least, (RenderError.engineTooOld version least).message =
      "Template version " ++ version ++ " requires engine >= " ++ least ++
        ", current is " ++ engineVersion) ∧
    (∀ message, catalogue.render id request = .ok message → message.Consistent) ∧
    ∀ text, (renderAdHoc text request).Consistent := by
  refine ⟨fun _ => render_eq_templateNotFound_iff, ?_, fun _ _ => rfl,
    fun _ => consistent_of_render, fun _ => Message.consistent_ofOutcome none _⟩
  intro template hget
  refine ⟨id_of_get? hget, ?_, ?_, ?_⟩
  · intro error
    simp [render_eq_error_iff hget]
  · intro version least
    rw [render_eq_error_iff hget]
    simp [and_assoc, and_comm]
  · intro message
    rw [render_eq_ok_iff hget, Request.withDefaults_eq]
    rfl

end Catalogue

end Aviso
