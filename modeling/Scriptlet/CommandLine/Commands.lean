import Scriptlet.CommandLine.Arguments
import Scriptlet.CommandLine.Files
import Scriptlet.Expr.Outline
import Scriptlet.Diagnostic
import Scriptlet.Program

/-!
# The commands

All four commands read the settings first and the file next. `run`, `check` and `ast` refuse a
program that cannot be read with the same diagnostic. Notes are written to the error output,
before anything else that is written there.
-/

namespace Scriptlet.CommandLine

/-- What keeps a command from coming to an end of its own. -/
inductive Crash where
  /-- The path leads to a directory. -/
  | directory (path : String)
  /-- Reading or running the program failed with something that is no error of the language. -/
  | failure (f : Failure)
deriving DecidableEq, Repr

/-- What is said of a crash, unless it was an error of the language. -/
def Crash.message : Crash → String
  | directory path => "[Errno 21] Is a directory: " ++ Text.quoted path
  | failure (.language e) => e.message
  | failure (.tooLong reason) => reason.message
  | failure .missingArgument => "list index out of range"

/-- What a command comes to. -/
structure Response where
  /-- What it writes. -/
  output : String := ""
  /-- What it writes to the error output. -/
  errors : String := ""
  /-- The exit code, or what keeps the command from coming to its end. -/
  ending : Except Crash Nat := .ok 0

/-- Notes as lines. -/
def noteLines (notes : List Note) : String := String.join (notes.map fun n => n.line ++ "\n")

/-- The response to a failure, behind what was written before. -/
def refuse (output errors : String) : Failure → Response
  | .language e => ⟨output, errors ++ e.render ++ "\n", .ok 1⟩
  | failure => ⟨output, errors, .error (.failure failure)⟩

/-- Runs a program. -/
def performRun (settings : Settings) (log : List Note → String) (source : Source) : Response :=
  let outcome := Program.run ⟨settings, .standard⟩ source
  let errors := log outcome.log.toList
  match outcome.failure with
  | none => ⟨outcome.output, errors, .ok 0⟩
  | some failure => refuse outcome.output errors failure

/-- Reads a program and writes a text made of its statements. -/
def performReading (log : List Note → String) (source : Source) (write : List Expr → String) :
    Response :=
  match source.statements with
  | (notes, .error failure) => refuse "" (log notes) (failure.attach source.text)
  | (notes, .ok statements) => ⟨write statements, log notes, .ok 0⟩

/-- The line that a program without errors is reported with. -/
def checkLine (path : String) (statements : List Expr) : String :=
  "OK: " ++ (Path.ofString path).name ++ " - " ++ toString statements.length ++
    " statement(s), no errors\n"

/-- The outline of a program, as it is written; nothing is written for a program without
statements. -/
def outlineText (statements : List Expr) : String :=
  if statements.isEmpty then "" else Expr.programOutline statements ++ "\n"

/-- The line of a token: where it starts, its kind and its text. -/
def tokenLine (t : Token) : String :=
  (match t.span with
    | some span => span.startText
    | none => "?") ++ "\t" ++ t.kind.name ++ "\t" ++ t.text ++ "\n"

/-- Writes the tokens of a program. -/
def performTokens (source : Source) : Response :=
  match source.tokens with
  | .error failure => refuse "" "" (failure.attach source.text)
  | .ok tokens => { output := String.join (tokens.map tokenLine) }

/-- Does what is asked for with a program. -/
def perform (command : Command) (settings : Settings) (log : List Note → String) (source : Source) :
    Response :=
  match command with
  | .run => performRun settings log source
  | .check => performReading log source (checkLine (source.file.getD ""))
  | .ast => performReading log source outlineText
  | .tokens => performTokens source

/-- The response to an invocation, given the environment and the files. -/
def respond (args : List String) (environment : Environment) (find : String → Entry) : Response :=
  match Request.ofArguments args with
  | .help topic => { output := helpText topic }
  | .misuse topic message => { errors := misuseText topic message, ending := .ok 2 }
  | .perform command verbose path =>
    match Settings.ofEnvironment environment with
    | .error malformed => { errors := "Error: " ++ malformed.message ++ "\n", ending := .ok 1 }
    | .ok settings =>
      match find path with
      | .missing =>
        { errors := "Error: File not found: " ++ (Path.ofString path).text ++ "\n"
          ending := .ok 1 }
      | .directory => { ending := .error (.directory (Path.ofString path).text) }
      | .file text =>
        let log (notes : List Note) : String :=
          if verbose || settings.logLevel.showsNotes then noteLines notes else ""
        perform command settings log ⟨String.ofList (plainNewlines text.toList), some path⟩

/-- The path of the file that an invocation needs, if it needs one. -/
def neededPath? (args : List String) : Option String :=
  match Request.ofArguments args with
  | .perform _ _ path => some path
  | _ => none

end Scriptlet.CommandLine
