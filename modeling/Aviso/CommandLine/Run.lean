import Aviso.CommandLine.Arguments
import Aviso.Message

/-!
# Running the command line

A run loads the catalogue, answers the command and reports.  What is printed is
JSON, and the exit code says what became of the rendering: 0 for rendered, 2 for
failed, 3 for no block that applies, and 1 where there is no message at all.
Arguments that cannot be read print nothing and end with 2.  `run` is the run as a
whole.
-/

namespace Aviso.CommandLine

open Json

/-- Why a text is no context. -/
inductive ContextError where
  /-- Not JSON, or JSON with a number or a string that no value holds. -/
  | invalidJson
  | tooDeep
  | decode (error : DecodeError)
deriving Repr

def ContextError.message : ContextError → String
  | invalidJson => "invalid JSON"
  | tooDeep => "recursion limit exceeded"
  | decode error => error.message

/-- The brackets that a context may open at once. -/
def maximalDepth : Nat := 127

/-- The context that a JSON text holds. -/
def readContext (text : String) : Except ContextError Context :=
  match Document.read? text with
  | none => .error .invalidJson
  | some document =>
    if maximalDepth < document.depth then .error .tooDeep
    else match document.value? .stepwise with
      | none => .error .invalidJson
      | some value => (Request.contextOf value).mapError .decode

/-- Why a command has no answer. -/
inductive RunError where
  | notLoaded (error : LoadError)
  | invalidContext (error : ContextError)
  | notRendered (error : RenderError)
deriving Repr

def RunError.message : RunError → String
  | notLoaded error => "Failed to load templates: " ++ error.message
  | invalidContext error => "Invalid context: " ++ error.message
  | notRendered error => error.message

/-- What a run answers. -/
inductive Report where
  | templates (listed : List Template)
  | message (answer : Message)
  | failure (error : RunError)
deriving Repr

/-- The request of an input. -/
def Input.request (input : Input) : Except RunError Request := do
  let context ← (readContext input.context).mapError .invalidContext
  return { context, event := input.event, entity := input.entity }

/-- The answer to a command. -/
def Command.run (catalogue : Catalogue) : Command → Except RunError Report
  | templates => .ok (.templates catalogue.templates)
  | render id input => do
    let request ← input.request
    let message ← (catalogue.render id request).mapError .notRendered
    return .message message
  | renderAdHoc text input => do
    let request ← input.request
    return .message (Aviso.renderAdHoc text request)

/-- The answer to an invocation, given what its directory holds. -/
def Invocation.run (invocation : Invocation) (listing : Listing) : Report :=
  let report := do
    let catalogue ← (Catalogue.load listing).mapError RunError.notLoaded
    invocation.command.run catalogue
  match report with
  | .ok report => report
  | .error error => .failure error

/-! ## Printing -/

/-- The exit code of a run whose arguments cannot be read. -/
def usageExitCode : Nat := 2

def Report.exitCode : Report → Nat
  | templates _ => 0
  | message answer =>
    match answer.status with
    | .rendered => 0
    | .failed => 2
    | .noMatch => 3
  | failure _ => 1

/-- A template in the list of all. -/
def summary (template : Template) : Value :=
  .object (Members.ofList [
    ("id", template.get .id),
    ("name", template.get .name),
    ("version", template.get .version),
    ("event", template.get .event),
    ("entity", template.get .entity),
    ("deprecated", template.get .deprecated)])

/-- What is printed where there is no message. -/
def failureValue (error : String) : Value :=
  .object (Members.ofList [("success", .bool false), ("error", .string error)])

/-- The JSON text that a run prints, without the line break at its end. -/
def Report.print (stamp : Stamp) : Report → String
  | templates listed => (Value.array (listed.map summary)).print
  | message answer => (Value.object (answer.members stamp)).printLines
  | failure error => (failureValue error.message).print

/-! ## Ending -/

/-- How a run ends: with an exit code, and with what it has printed. -/
structure Ending where
  exitCode : Nat
  output : String
deriving Repr, DecidableEq

/-- The run of the command line on arguments, given what each directory holds. -/
def run (listing : String → Listing) (stamp : Stamp) (arguments : List String) : Ending :=
  match Invocation.parse arguments with
  | .error _ => { exitCode := usageExitCode, output := "" }
  | .ok invocation =>
    let report := invocation.run (listing invocation.directory)
    { exitCode := report.exitCode, output := report.print stamp ++ "\n" }

end Aviso.CommandLine
