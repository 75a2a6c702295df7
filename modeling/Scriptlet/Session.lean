import Scriptlet.Program

/-!
# Sessions

A session is a registry and any number of scopes, on which programs are run and questions asked
step by step. What a step leaves behind is what the next one finds; a step that fails leaves what
it had done so far.
-/

namespace Scriptlet

namespace Eval

/-- The values of expressions one after the other, up to the first failure, and the machine that
is left. -/
def evalEach (c : Context) : List Expr → Machine 0 → List Value × Option Failure × Machine 0
  | [], m => ([], none, m)
  | e :: es, m =>
    match eval c 0 e m with
    | (.error failure, m) => ([], some failure, m)
    | (.ok v, m) =>
      let (vs, failure, m) := evalEach c es m
      (v :: vs, failure, m)

end Eval

/-- What the steps of a session find and leave behind. -/
structure Session where
  /-- How programs are run. -/
  settings : Settings := {}
  /-- The built-in functions. -/
  registry : Registry := .standard
  /-- The program that is loaded. -/
  statements : List Expr := []
  /-- The scope that the loaded program runs in. -/
  toplevel : Scope
  /-- Further scopes, each under an identifier. -/
  scopes : List (String × Scope) := []

/-- What can be done in a session. -/
inductive Session.Step where
  /-- Evaluates the statements of a program. -/
  | exec (source : Source)
  /-- Loads a program. -/
  | load (source : Source)
  /-- Runs the loaded program in the top-level scope. -/
  | run
  /-- Asks for the value of a name. -/
  | get (name : String)
  /-- Binds a name. -/
  | set (name : String) (v : Value)
  /-- Asks whether a name is bound. -/
  | contains (name : String)
  /-- Asks for the bound names. -/
  | names
  /-- Copies the scope. -/
  | snapshot (identifier name : String)
  /-- Makes an empty scope. -/
  | newScope (identifier : String)
  /-- Binds handles to the built-in functions. -/
  | populate
  /-- Registers a built-in function. -/
  | register (b : Builtin)
  /-- Asks for a built-in function. -/
  | info (name : String)
  /-- Calls a built-in function, where a result of a given type is promised. -/
  | call (name : String) (args : List Value) (promised : ValueType)

/-- What a step answers. -/
inductive Session.Answer where
  /-- Nothing but that it is done. -/
  | done
  /-- The values of statements, and what kept further ones from being read or evaluated. -/
  | values (vs : List Value) (failure : Option Failure)
  /-- The number of statements that were loaded. -/
  | loaded (statements : Nat)
  /-- What a name is bound to. -/
  | value (v : Option Value)
  /-- Whether a name is bound. -/
  | contained (b : Bool)
  /-- The bound names in order, their number, and the name of their scope. -/
  | bound (names : List String) (size : Nat) (scope : String)
  /-- The names of the built-in functions in order. -/
  | registered (names : List String)
  /-- A built-in function. -/
  | found (b : Option Builtin)

namespace Session

/-- A session in which nothing has been done yet. -/
def start (settings : Settings) : Session :=
  { settings, toplevel := Program.startingScope .standard }

/-- The identifier of the top-level scope. -/
def toplevelIdentifier : String := "top"

/-- The scope of an identifier. -/
def scope (s : Session) (identifier : String) : Scope :=
  ((Keyed.get? Prod.fst identifier s.scopes).map Prod.snd).getD s.toplevel

/-- The session with another scope under an identifier that is new or given away anew. -/
def define (s : Session) (identifier : String) (scope : Scope) : Session :=
  { s with scopes := Keyed.put Prod.fst (identifier, scope) s.scopes }

/-- The session in which the scope of an identifier has changed. -/
def update (s : Session) (identifier : String) (scope : Scope) : Session :=
  if (Keyed.get? Prod.fst identifier s.scopes).isSome then s.define identifier scope
  else { s with toplevel := scope }

/-- What evaluation depends on in a session. -/
def context (s : Session) : Eval.Context := ⟨s.settings, s.registry⟩

/-- What a step comes to. -/
structure Result where
  /-- What the step answers, or why it fails. -/
  answer : Except Failure Answer
  /-- What it printed. -/
  output : String := ""
  /-- What it leaves behind. -/
  session : Session

/-- A step that prints nothing. -/
def quiet (session : Session) (answer : Answer) : Result := { answer := .ok answer, session }

/-- Evaluates the statements of a program in a scope. Where they stop is part of the answer, so the
step itself does not fail. -/
def exec (s : Session) (identifier : String) (source : Source) : Result :=
  match source.statements.2 with
  | .error failure => s.quiet (.values [] (some (failure.attach source.text)))
  | .ok statements =>
    let (vs, failure, m) := Eval.evalEach s.context statements (.atTop (s.scope identifier))
    { answer := .ok (.values vs (failure.map (·.attach source.text)))
      output := m.output
      session := s.update identifier m.scope }

/-- Takes a step, which names a scope by its identifier. -/
def step (s : Session) (identifier : String) : Step → Result
  | .exec source => s.exec identifier source
  | .load source =>
    match source.statements.2 with
    | .error failure => { answer := .error failure, session := s }
    | .ok statements => quiet { s with statements } (.loaded statements.length)
  | .run =>
    let (answer, m) := Program.runStatements s.context 0 s.statements (.atTop s.toplevel)
    { answer := answer.map fun _ => .done
      output := m.output
      session := { s with toplevel := m.scope } }
  | .get name => s.quiet (.value ((s.scope identifier).get? name))
  | .set name v => quiet (s.update identifier ((s.scope identifier).set name v)) .done
  | .contains name => s.quiet (.contained ((s.scope identifier).contains name))
  | .names =>
    let scope := s.scope identifier
    s.quiet (.bound (scope.sorted.map Prod.fst) scope.size scope.name)
  | .snapshot new name => quiet (s.define new ((s.scope identifier).snapshot name)) .done
  | .newScope new => quiet (s.define new .empty) .done
  | .populate => quiet (s.update identifier (s.registry.populate (s.scope identifier))) .done
  | .register b =>
    let registry := s.registry.register b
    quiet { s with registry } (.registered registry.names)
  | .info name => s.quiet (.found (s.registry.find? name))
  | .call name args promised =>
    let (answer, m) := s.registry.call name args promised (.atTop (s.scope identifier))
    { answer := answer.map fun v => .value (some v), output := m.output, session := s }

end Session

end Scriptlet
