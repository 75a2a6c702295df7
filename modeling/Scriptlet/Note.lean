import Scriptlet.Expr.Reading

/-!
# Notes

Reading and running a program leaves notes, which are shown when debugging. Each note comes from a
part of the program, which is named before it.
-/

namespace Scriptlet

/-- What is noted on the way. -/
inductive Note where
  /-- A definition was read to its closing brace. -/
  | definitionRead (heading : Heading)
  /-- A program was read that has this many statements. -/
  | programRead (statements : Nat)
  /-- A built-in function takes the place of another one. -/
  | builtinReplaced (name : String)
  /-- Handles to this many built-in functions were bound in a scope. -/
  | scopePopulated (scope : String) (builtins : Nat)
  /-- A built-in function is called. -/
  | builtinCalled (name : String) (arguments : Nat)
  /-- A statement is run. -/
  | statementRun (index : Nat) (text : String)
  /-- A leaf without a value was passed over. -/
  | leafPassedOver (kind : Token.Kind)
  /-- A function was defined. -/
  | functionDefined (name : String) (arity : Nat) (scope : String)
  /-- A function is called as the innermost of this many calls. -/
  | functionCalled (name : String) (depth : Nat)
  /-- A run ended with an error. -/
  | runFailed (message : String)
deriving DecidableEq, Repr

namespace Note

/-- The part of the program that leaves the note. -/
def origin : Note → String
  | definitionRead _ | programRead _ => "minilang.parser"
  | builtinReplaced _ | scopePopulated .. | builtinCalled .. => "minilang.runtime.builtins"
  | statementRun .. | leafPassedOver _ | functionDefined .. | functionCalled .. | runFailed _ =>
    "minilang.runtime.interpreter"

/-- What the note says. -/
def message : Note → String
  | definitionRead heading =>
    "parsed definition of " ++ heading.name ++ " with " ++ toString heading.parameters ++
      " parameter(s)"
  | programRead statements => "parsed " ++ toString statements ++ " top-level statement(s)"
  | builtinReplaced name => "overriding builtin " ++ name
  | scopePopulated scope builtins =>
    "populated scope " ++ scope ++ " with " ++ toString builtins ++ " builtin(s)"
  | builtinCalled name arguments =>
    "calling builtin " ++ name ++ " with " ++ toString arguments ++ " argument(s)"
  | statementRun index text => "statement " ++ toString index ++ ": " ++ text
  | leafPassedOver kind => "permissive fallback for " ++ kind.name ++ " leaf"
  | functionDefined name arity scope =>
    "defined " ++ name ++ "/" ++ toString arity ++ " in scope " ++ scope
  | functionCalled name depth => "calling " ++ name ++ " at depth " ++ toString depth
  | runFailed message => "run failed: " ++ message

/-- The line of a log that shows the note. -/
def line (n : Note) : String := "DEBUG " ++ n.origin ++ ": " ++ n.message

end Note

end Scriptlet
