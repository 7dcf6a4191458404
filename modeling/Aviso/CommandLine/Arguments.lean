import Aviso.Context

/-!
# Arguments of the command line

The command line names a directory of templates and one of three commands.  A
flag takes a value: the argument behind it, or what is attached to it, with an
equals sign or, for a short flag, without one.  A flag is given at most once.

`Invocation.parse` reads the arguments; whatever it cannot read is a usage error.
-/

namespace Aviso.CommandLine

/-- A flag with its long name and the letter that is short for it. -/
structure Flag where
  long : String
  short : Option Char := none
deriving Repr, DecidableEq

/-- Why arguments are no invocation. -/
inductive UsageError where
  | unknownFlag (argument : String)
  | missingValue (flag : Flag)
  | repeatedFlag (flag : Flag)
  | missingFlag (flag : Flag)
  | emptyValue (flag : Flag)
  | invalidValue (error : NameError)
  | missingCommand
  | unexpected (argument : String)
deriving Repr, DecidableEq

def UsageError.message : UsageError → String
  | unknownFlag argument => "unknown flag " ++ argument
  | missingValue flag => "--" ++ flag.long ++ " needs a value"
  | repeatedFlag flag => "--" ++ flag.long ++ " is given more than once"
  | missingFlag flag => "--" ++ flag.long ++ " is missing"
  | emptyValue flag => "--" ++ flag.long ++ " is empty"
  | invalidValue error => error.message
  | missingCommand => "a command is missing: templates, render or render-text"
  | unexpected argument => "unexpected argument " ++ argument

/-! ## Flags -/

/-- How an argument begins. -/
inductive Form where
  /-- A long flag, with what stands behind its equals sign. -/
  | long (name : String) (attached : Option String)
  /-- A short flag, with what is attached to it. -/
  | short (letter : Char) (attached : Option String)
  | other
deriving Repr, DecidableEq

/-- The form of an argument.  A hyphen alone and two of them are no flags. -/
def Form.of (argument : String) : Form :=
  match argument.toList with
  | ['-', '-'] => .other
  | '-' :: '-' :: text =>
    let name := text.takeWhile (· != '=')
    match text.drop name.length with
    | _ :: value => .long (String.ofList name) (some (String.ofList value))
    | [] => .long (String.ofList name) none
  | '-' :: letter :: '=' :: value => .short letter (some (String.ofList value))
  | ['-', letter] => .short letter none
  | '-' :: letter :: value => .short letter (some (String.ofList value))
  | _ => .other

/-- Whether an argument can be the value of the flag before it. -/
def isValue (argument : String) : Bool :=
  argument == "-" || argument.toList.head? != some '-'

/-- Flags with their values. -/
abbrev Values := List (Flag × String)

/-- Reads flags up to the first argument that is none, and returns the rest. -/
def readFlags (flags : List Flag) : List String → Except UsageError (Values × List String)
  | [] => .ok ([], [])
  | argument :: arguments =>
    let found : Option (Option Flag × Option String) :=
      match Form.of argument with
      | .long name attached => some (flags.find? fun flag => flag.long == name, attached)
      | .short letter attached => some (flags.find? fun flag => flag.short == some letter, attached)
      | .other => none
    match found with
    | none => .ok ([], argument :: arguments)
    | some (none, _) => .error (.unknownFlag argument)
    | some (some flag, some value) =>
      (readFlags flags arguments).map fun (values, rest) => ((flag, value) :: values, rest)
    | some (some flag, none) =>
      match arguments with
      | [] => .error (.missingValue flag)
      | value :: arguments =>
        if isValue value then
          (readFlags flags arguments).map fun (values, rest) => ((flag, value) :: values, rest)
        else .error (.missingValue flag)

/-- The value of a flag, if it is given. -/
def Values.get? (values : Values) (flag : Flag) : Except UsageError (Option String) :=
  match values.filter fun value => value.1 == flag with
  | [] => .ok none
  | [(_, value)] => .ok (some value)
  | _ => .error (.repeatedFlag flag)

/-- The value of a flag that has to be given. -/
def Values.get (values : Values) (flag : Flag) : Except UsageError String := do
  match ← values.get? flag with
  | some value => return value
  | none => .error (.missingFlag flag)

/-! ## Commands -/

def templatesDir : Flag := { long := "templates-dir", short := some 't' }

def template : Flag := { long := "template", short := some 't' }

def text : Flag := { long := "text" }

def context : Flag := { long := "context", short := some 'c' }

def event : Flag := { long := "event", short := some 'e' }

def entity : Flag := { long := "entity" }

/-- What a template is rendered against, the context still a JSON text. -/
structure Input where
  context : String
  event : Option Event
  entity : Option Entity
deriving Repr, DecidableEq

/-- What is asked for. -/
inductive Command where
  | templates
  | render (id : String) (input : Input)
  /-- Renders a text outside the catalogue. -/
  | renderAdHoc (text : String) (input : Input)
deriving Repr, DecidableEq

/-- A command and the directory of its templates. -/
structure Invocation where
  directory : String
  command : Command
deriving Repr, DecidableEq

/-- Reads the flags of a command, behind which nothing may stand. -/
def readAll (flags : List Flag) (arguments : List String) : Except UsageError Values := do
  let (values, rest) ← readFlags flags arguments
  match rest with
  | [] | ["--"] => return values
  | argument :: _ => .error (.unexpected argument)

/-- The word that a flag gives, read as a name. -/
def readName (ofWord : String → Except NameError α) :
    Option String → Except UsageError (Option α)
  | none => .ok none
  | some word => ((ofWord word).mapError .invalidValue).map some

/-- The input that flags give. -/
def Input.ofValues (values : Values) : Except UsageError Input := do
  let text ← values.get CommandLine.context
  let event ← readName Event.ofWord (← values.get? CommandLine.event)
  let entity ← readName Entity.ofWord (← values.get? CommandLine.entity)
  return { context := text, event, entity }

/-- Reads a command and its flags. -/
def Command.parse : List String → Except UsageError Command
  | [] => .error .missingCommand
  | command :: arguments => do
    match command with
    | "templates" =>
      let _ ← readAll [] arguments
      return templates
    | "render" =>
      let values ← readAll [template, context, event, entity] arguments
      return render (← values.get template) (← Input.ofValues values)
    | "render-text" =>
      let values ← readAll [text, context, event, entity] arguments
      return renderAdHoc (← values.get text) (← Input.ofValues values)
    | other => .error (.unexpected other)

/-- Reads the arguments of the command line. -/
def Invocation.parse (arguments : List String) : Except UsageError Invocation := do
  let (values, rest) ← readFlags [templatesDir] arguments
  let directory := (← values.get? templatesDir).getD "templates"
  if directory.isEmpty then .error (.emptyValue templatesDir)
  else return { directory, command := ← Command.parse rest }

end Aviso.CommandLine
