import Scriptlet.Token.Stream
import Scriptlet.Eval
import Scriptlet.Builtin.Standard

/-!
# Programs

A program is read as a whole before any of it is run, so a program that cannot be read does
nothing. It runs in a scope that has the built-in functions, statement by statement, up to the
first failure.
-/

namespace Scriptlet

/-- The statements of a program text, or why there are none, and the notes that reading leaves. -/
def Source.statements (source : Source) : List Note × Except Failure (List Expr) :=
  match source.tokens with
  | .error failure => ([], .error failure)
  | .ok tokens =>
    match readProgram tokens with
    | .error stop => (stop.read.map .definitionRead, .error (.language stop.error))
    | .ok statements =>
      ((Expr.allHeadings statements).map .definitionRead ++ [.programRead statements.length],
        .ok statements)

namespace Program

/-- The top-level scope that a run starts in. -/
def startingScope (registry : Registry) : Scope := registry.populate .empty

/-- The machine that a run starts on, which has the notes of reading the program. -/
def start (registry : Registry) (notes : List Note := []) : Machine 0 :=
  .atTop (startingScope registry) "" (notes ++ [registry.populateNote .empty]).toArray

/-- Runs statements one after the other, counting them from `index`. -/
def runStatements (c : Eval.Context) (index : Nat) : List Expr → Eval 0 Unit
  | [] => return ()
  | e :: es => do
    Eval.note (.statementRun index e.text)
    let _ ← Eval.eval c 0 e
    runStatements c (index + 1) es

/-- How a run ended. -/
structure Outcome where
  /-- The machine that it left, if the program could be read. -/
  machine : Option (Machine 0)
  /-- The notes that it left. -/
  log : Array Note
  /-- Why it ended early, if it did. -/
  failure : Option Failure

/-- What the run printed. -/
def Outcome.output (o : Outcome) : String := (o.machine.map (·.output)).getD ""

/-- The note that a failed run ends with. -/
def failureNotes : Failure → Array Note
  | .language e => #[.runFailed e.message]
  | _ => #[]

/-- A run that failed. An error shows the line of the program that it points at. -/
def failed (source : Source) (machine : Option (Machine 0)) (log : Array Note) (failure : Failure) :
    Outcome :=
  ⟨machine, log ++ failureNotes failure, some (failure.attach source.text)⟩

/-- Runs the statements of a program, given the notes of reading it. -/
def execute (c : Eval.Context) (source : Source) (notes : List Note) (statements : List Expr) :
    Outcome :=
  match runStatements c 0 statements (start c.registry notes) with
  | (.ok (), machine) => ⟨some machine, machine.log, none⟩
  | (.error failure, machine) => failed source (some machine) machine.log failure

/-- Reads and runs a program. -/
def run (c : Eval.Context) (source : Source) : Outcome :=
  match source.statements with
  | (notes, .error failure) => failed source none notes.toArray failure
  | (notes, .ok statements) => execute c source notes statements

/-- Reads a program and runs it with the settings that an environment makes. The environment is
looked at once the program is read; if a variable is malformed, the program is not run. -/
def runIn (environment : Environment) (registry : Registry) (source : Source) :
    Except (Settings.Malformed × List Note) Outcome :=
  match source.statements with
  | (notes, .error failure) => .ok (failed source none notes.toArray failure)
  | (notes, .ok statements) =>
    match Settings.ofEnvironment environment with
    | .error malformed => .error (malformed, notes)
    | .ok settings => .ok (execute ⟨settings, registry⟩ source notes statements)

end Program

end Scriptlet
