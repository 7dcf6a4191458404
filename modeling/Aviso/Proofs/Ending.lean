import Aviso.CommandLine.Run
import Aviso.Proofs.Json.Record
import Aviso.Proofs.Results

/-!
# How a run of the command line ends

A caller is told twice what became of a rendering: by the exit code, and by the status
of the message that is printed.

* `isMessage_iff`: a message that is printed shows its status and no other.
* `not_isMessage_failure`: what is printed where there is no message cannot be taken
  for one.
* `run_of_read` and `run_of_unread` say how a run ends.
* `run_exitCode_iff`: the two agree but for arguments that cannot be read, which end as a
  failed rendering does, with nothing printed.
-/

namespace Aviso.CommandLine

open Json

/-! ## What is printed -/

/-- The text is a message with the status, as it is printed. -/
def IsMessage (status : Status) (output : String) : Prop :=
  ∃ (answer : Message) (stamp : Stamp), answer.status = status ∧
    output = (Value.object (answer.members stamp)).printLines ++ "\n"

theorem scalars_members (answer : Message) (stamp : Stamp) : Scalars (answer.members stamp) := by
  have hpresent (key : String) (text : Option String) : Scalars (Message.present key text) := by
    cases text with
    | none => simp [Scalars, Message.present]
    | some text => simpa [Scalars, Message.present] using ⟨_, .string text⟩
  have hstring (text : String) : ∃ document, Scalar (.string text) document := ⟨_, .string text⟩
  intro member hmem
  simp only [Message.members, Message.origin, Message.content, List.cons_append, List.nil_append,
    List.mem_cons, List.mem_append] at hmem
  rcases hmem with rfl | rfl | rfl | rfl | rfl | rfl | hmem | hmem
  · exact hstring _
  · exact exists_scalar_ofOption (fun text => text) _
  · exact exists_scalar_ofOption (fun text => text) _
  · exact hstring _
  · exact hstring _
  · exact hstring _
  · exact hpresent _ _ member hmem
  · exact hpresent _ _ member hmem

theorem objectText_message (answer : Message) (stamp : Stamp) :
    ObjectText (answer.members stamp) ((Value.object (answer.members stamp)).printLines ++ "\n") :=
  objectText_printLines space_lineBreak (by simp [Message.members]) (scalars_members answer stamp)

/-- A message that is printed shows its status and no other. -/
theorem isMessage_iff {answer : Message} {stamp : Stamp} {status : Status} :
    IsMessage status ((Value.object (answer.members stamp)).printLines ++ "\n") ↔
      answer.status = status := by
  constructor
  · intro hmessage
    obtain ⟨other, later, rfl, hsame⟩ := hmessage
    have hmembers := (objectText_message answer stamp).unique
      (hsame ▸ objectText_message other later)
    simp only [Message.members, Message.origin, Message.content, List.cons_append,
      List.nil_append, List.cons.injEq, Prod.mk.injEq, Value.string.injEq, true_and] at hmembers
    exact Status.name_injective hmembers.2.2.2.2.1
  · intro hstatus
    exact ⟨answer, stamp, hstatus, rfl⟩

theorem failureValue_eq (error : String) :
    failureValue error = .object [("error", .string error), ("success", .bool false)] := by
  rfl

/-- What is printed where there is no message cannot be taken for one. -/
theorem not_isMessage_failure (error : String) (status : Status) :
    ¬ IsMessage status ((failureValue error).print ++ "\n") := by
  intro hmessage
  obtain ⟨answer, stamp, _, hsame⟩ := hmessage
  have hscalars : Scalars [("error", .string error), ("success", .bool false)] :=
    List.forall_mem_cons.mpr ⟨⟨_, .string error⟩, List.forall_mem_singleton.mpr ⟨_, .bool false⟩⟩
  have htext := objectText_print space_lineBreak (by simp) hscalars
  rw [← failureValue_eq] at htext
  have hmembers := htext.unique (hsame ▸ objectText_message answer stamp)
  have hkey : "error" = "id" := congrArg Prod.fst (List.cons.inj hmembers).1
  exact absurd hkey (by decide)

theorem not_isMessage_empty (status : Status) : ¬ IsMessage status "" := by
  intro hmessage
  obtain ⟨answer, stamp, _, hsame⟩ := hmessage
  have hchars := congrArg String.toList hsame
  rw [String.toList_append] at hchars
  exact List.ne_nil_of_mem (List.mem_append_right _ (List.mem_singleton_self '\n')) hchars.symm

variable {listing : String → Listing} {stamp : Stamp} {arguments : List String}

/-! ## Arguments -/

/-- One of the arguments that can be flags asks for help, by its long name or by its
letter, with or without more behind it. -/
def AsksForHelp (arguments : List String) : Prop :=
  ∃ argument ∈ arguments.takeWhile (· != "--"),
    argument = "--help" ∨ argument.toList.take 2 = ['-', 'h']

instance (arguments : List String) : Decidable (AsksForHelp arguments) :=
  inferInstanceAs (Decidable (∃ argument ∈ arguments.takeWhile (· != "--"), _))

/-- The command is one of the two that render something, and no help is asked for. -/
def AsksToRender (arguments : List String) : Prop :=
  ∃ values command rest, readFlags [templatesDir] arguments = .ok (values, command :: rest) ∧
    (command = "render" ∨ command = "render-text") ∧ ¬ AsksForHelp rest

/-- No flag stands in front of a command that is the first argument. -/
theorem readFlags_of_command {word : String} (hword : word = "render" ∨ word = "render-text")
    (rest : List String) : readFlags [templatesDir] (word :: rest) = .ok ([], word :: rest) := by
  rcases hword with rfl | rfl <;> simp [readFlags, Form.of]

/-- The arguments are a usage error. -/
def Unreadable (arguments : List String) : Prop :=
  ∃ error, Invocation.parse arguments = .error error

theorem Command.ne_templates_of_parse {word : String} {rest : List String} {command : Command}
    (hword : word = "render" ∨ word = "render-text")
    (hread : Command.parse (word :: rest) = .ok command) : command ≠ .templates := by
  rcases hword with rfl | rfl
  all_goals
    simp only [Command.parse, bind_eq_ok_iff] at hread
    obtain ⟨values, -, text, -, input, -, hcommand⟩ := hread
    obtain rfl := Except.ok.inj hcommand
    simp

theorem AsksToRender.command_ne_templates (hasks : AsksToRender arguments)
    {invocation : Invocation} (hread : Invocation.parse arguments = .ok invocation) :
    invocation.command ≠ .templates := by
  obtain ⟨values, word, rest, hflags, hword, -⟩ := hasks
  rw [Invocation.parse, hflags, bind_eq_ok_iff] at hread
  obtain ⟨_, hpair, hread⟩ := hread
  obtain rfl := Except.ok.inj hpair
  rw [bind_eq_ok_iff] at hread
  obtain ⟨directory, -, hread⟩ := hread
  dsimp only at hread
  split at hread
  · cases hread
  · rw [bind_eq_ok_iff] at hread
    obtain ⟨command, hcommand, hread⟩ := hread
    obtain rfl := Except.ok.inj hread
    exact Command.ne_templates_of_parse hword hcommand

/-! ## Ending -/

theorem run_of_unread {error : UsageError} (hread : Invocation.parse arguments = .error error) :
    run listing stamp arguments = { exitCode := usageExitCode, output := "" } := by
  rw [run, hread]

theorem run_of_read {invocation : Invocation} (hread : Invocation.parse arguments = .ok invocation) :
    run listing stamp arguments =
      { exitCode := (invocation.run (listing invocation.directory)).exitCode
        output := (invocation.run (listing invocation.directory)).print stamp ++ "\n" } := by
  rw [run, hread]

/-- A command that renders something is answered with a message, if at all. -/
theorem Command.exists_message {catalogue : Catalogue} {command : Command} {report : Report}
    (hcommand : command ≠ .templates) (hrun : command.run catalogue = .ok report) :
    ∃ answer, report = .message answer := by
  cases command with
  | templates => exact absurd rfl hcommand
  | render id input =>
    simp only [Command.run, bind_eq_ok_iff] at hrun
    obtain ⟨request, -, answer, -, hreport⟩ := hrun
    exact ⟨answer, (Except.ok.inj hreport).symm⟩
  | renderAdHoc text input =>
    simp only [Command.run, bind_eq_ok_iff] at hrun
    obtain ⟨request, -, hreport⟩ := hrun
    exact ⟨_, (Except.ok.inj hreport).symm⟩

theorem Invocation.exists_message_or_failure {invocation : Invocation}
    (hcommand : invocation.command ≠ .templates) (listing : Listing) :
    (∃ answer, invocation.run listing = .message answer) ∨
      ∃ error, invocation.run listing = .failure error := by
  cases hreport : (Catalogue.load listing).mapError RunError.notLoaded >>=
      fun catalogue => invocation.command.run catalogue with
  | error error => exact .inr ⟨error, by rw [Invocation.run, hreport]⟩
  | ok report =>
    obtain ⟨catalogue, -, hrun⟩ := bind_eq_ok_iff.mp hreport
    obtain ⟨answer, rfl⟩ := Command.exists_message hcommand hrun
    exact .inl ⟨answer, by rw [Invocation.run, hreport]⟩

/-- The exit code of a run that is asked to render something says what its output says:
it is 0, 3 or 2 if the output is a message that is rendered, has no block that applies
or is failed, and 1 if it is no message but an error.  But arguments that cannot be read
leave no output, and their exit code is that of a failed message. -/
theorem run_exitCode_iff (hasks : AsksToRender arguments) {ending : Ending}
    (hending : run listing stamp arguments = ending) :
    (ending.exitCode = 0 ↔ IsMessage .rendered ending.output) ∧
    (ending.exitCode = 3 ↔ IsMessage .noMatch ending.output) ∧
    (ending.exitCode = 2 ↔ IsMessage .failed ending.output ∨ Unreadable arguments) ∧
    (ending.exitCode = 1 ↔
      ¬ Unreadable arguments ∧ ∀ status, ¬ IsMessage status ending.output) ∧
    (ending.exitCode = 1 →
      ∃ error : RunError, ending.output = (failureValue error.message).print ++ "\n") ∧
    (Unreadable arguments → ending.output = "") := by
  subst hending
  cases hread : Invocation.parse arguments with
  | error error =>
    have hunread : Unreadable arguments := ⟨error, hread⟩
    simp [run_of_unread hread, usageExitCode, not_isMessage_empty, hunread]
  | ok invocation =>
    have hreadable : ¬ Unreadable arguments := by
      intro hunread
      obtain ⟨error, hunread⟩ := hunread
      rw [hread] at hunread
      cases hunread
    have hcommand := hasks.command_ne_templates hread
    rw [run_of_read hread]
    obtain ⟨answer, hrun⟩ | ⟨error, hrun⟩ :=
      invocation.exists_message_or_failure hcommand (listing invocation.directory)
    · cases hstatus : answer.status <;>
        simp [hrun, Report.exitCode, Report.print, isMessage_iff, hstatus, hreadable]
    · rw [hrun]
      refine ⟨?_, ?_, ?_, ?_, fun _ => ⟨error, rfl⟩, fun hunread => absurd hunread hreadable⟩
      all_goals simp [Report.exitCode, Report.print, not_isMessage_failure, hreadable]

/-- A text is rendered. -/
theorem run_exitCode_iff_rendered :
    AsksToRender ["render-text", "--text", "[BASE]x[FIN]", "--context", "\x7b\x7d"] ∧
    IsMessage .rendered (run (fun _ => .missing) { id := "", renderedAt := "" }
      ["render-text", "--text", "[BASE]x[FIN]", "--context", "\x7b\x7d"]).output := by
  have hasks : AsksToRender ["render-text", "--text", "[BASE]x[FIN]", "--context", "\x7b\x7d"] :=
    ⟨_, _, _, readFlags_of_command (.inr rfl) _, .inr rfl, by decide +kernel⟩
  exact ⟨hasks, (run_exitCode_iff hasks rfl).1.mp (by decide +kernel)⟩

/-- A word that is no event ends a run as a failed message does, but there is no
message. -/
theorem run_exitCode_of_unknown_event :
    AsksToRender
      ["render-text", "--text", "[BASE]x[FIN]", "--context", "\x7b\x7d", "--event", "update"] ∧
    (run (fun _ => .missing) { id := "", renderedAt := "" }
      ["render-text", "--text", "[BASE]x[FIN]", "--context", "\x7b\x7d", "--event", "update"]) =
        { exitCode := 2, output := "" } ∧
    ¬ IsMessage .failed "" := by
  refine ⟨⟨_, _, _, readFlags_of_command (.inr rfl) _, .inr rfl, ?_⟩, ?_, ?_⟩
  · decide +kernel
  · decide +kernel
  · exact not_isMessage_empty .failed

end Aviso.CommandLine
