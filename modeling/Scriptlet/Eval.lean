import Scriptlet.Builtin
import Scriptlet.Settings
import Scriptlet.Expr.Print

/-!
# Evaluation

Operands and arguments are evaluated from left to right, and the function that is called is looked
up after its arguments. A call works in a copy of the caller's scope with the parameters bound
over it: there are no closures, so a function sees what is bound where it is called. Assignments
and definitions have no value of their own.

`evalWith` evaluates an expression, given a way to run the body of a function one call deeper. The
way is handed over only where the settings allow a deeper call, so `eval`, which ties the knot,
ends: each body is run with less room for calls than the call had.
-/

namespace Scriptlet

/-! ## Operators -/

/-- Division that rounds toward zero. -/
def truncatingDiv (l r : Int) : Int :=
  let q := l.natAbs / r.natAbs
  if (l < 0) ≠ (r < 0) then -(q : Int) else q

/-- Whether two values are equal, if values of their types can be compared. -/
def Value.equal? : Value → Value → Option Bool
  | .int m, .int n => some (m = n)
  | .string s, .string t => some (s = t)
  | .bool b, .bool c => some (b = c)
  | _, _ => none

/-- The operand types of an operator, as diagnostics put it. -/
def Operator.operands : Operator → String
  | add => "two ints or two strings"
  | sub | mul | div => "two ints"
  | eq | ne => "two ints, two strings or two bools"

/-- The value of an operator, or why it has none. -/
def Operator.apply (op : Operator) (l r : Value) : Except Cause Value :=
  let mismatch : Except Cause Value :=
    .error (.typeMismatch ("'" ++ op.symbol ++ "'") op.operands [l.type, r.type])
  let compared (f : Bool → Bool) : Except Cause Value :=
    match l.equal? r with
    | some b => .ok (.bool (f b))
    | none => mismatch
  match op, l, r with
  | .add, .int m, .int n => .ok (.int (m + n))
  | .add, .string s, .string t => .ok (.string (s ++ t))
  | .sub, .int m, .int n => .ok (.int (m - n))
  | .mul, .int m, .int n => .ok (.int (m * n))
  | .div, .int m, .int n => if n = 0 then .error .divisionByZero else .ok (.int (truncatingDiv m n))
  | .eq, _, _ => compared id
  | .ne, _, _ => compared not
  | _, _, _ => mismatch

/-! ## Definitions and calls -/

/-- The type that an annotation names. -/
def resolveType (typeText : String) (span : Option Span) : Except Failure ValueType :=
  match ValueType.ofAnnotation? typeText with
  | some t => .ok t
  | none => .error (.located (.unknownType typeText) span)

/-- A parameter with the type that its annotation names. -/
def Param.resolve (p : Param) : Except Failure TypedParam := do
  let type ← resolveType p.typeToken.payload.display p.span
  return ⟨p.index, p.name, type⟩

/-- The argument at a place; a negative place counts from the end. -/
def argumentAt? (args : List Value) (index : Int) : Option Value :=
  if 0 ≤ index then args[index.toNat]?
  else if 0 ≤ index + args.length then args[(index + args.length).toNat]?
  else none

/-- Whether a value is of a type that has to be checked. -/
def passesCheck (settings : Settings) (type : ValueType) (v : Value) : Bool :=
  !settings.checkTypes || v.type = type

/-- Binds the arguments of a call to parameters, one after the other. -/
def bindArguments (settings : Settings) (function : String) (args : List Value)
    (span : Option Span) : List TypedParam → Scope → Except Failure Scope
  | [], scope => .ok scope
  | p :: ps, scope =>
    match argumentAt? args p.index with
    | none => .error .missingArgument
    | some v =>
      if passesCheck settings p.type v then
        bindArguments settings function args span ps (scope.set p.name v)
      else
        .error (.located (.typeMismatch ("argument '" ++ p.name ++ "' of '" ++ function ++ "'")
          p.type.name [v.type]) span)

/-- The result of a call, unless it has not the type that was declared; `_none` declares nothing. -/
def checkResult (settings : Settings) (f : UserFunction) (span : Option Span) (v : Value) :
    Except Failure Value :=
  if f.returnType = .nothing || passesCheck settings f.returnType v then .ok v
  else .error (.located
    (.typeMismatch ("return value of '" ++ f.name ++ "'") f.returnType.name [v.type]) span)

/-- The failure of a call that is nested too deep. A limit that is too long to be written cannot
be reported. -/
def depthFailure (limit : Int) (span : Option Span) : Failure :=
  match Numeral.write limit with
  | .ok _ => .located (.callDepthExceeded limit) span
  | .error reason => .tooLong reason

theorem depthFailure_eq {limit : Int} (h : limit.natAbs < Numeral.writingLimit)
    (span : Option Span) : depthFailure limit span = .located (.callDepthExceeded limit) span := by
  unfold depthFailure
  simp only [Numeral.write_eq_ok h]

namespace Eval

/-- What evaluation depends on and does not change. -/
structure Context where
  /-- How programs are run. -/
  settings : Settings := {}
  /-- The built-in functions. -/
  registry : Registry

variable {d : Nat}

/-- The value of a leaf. -/
def evalLeaf (c : Context) (t : Token) (span : Option Span) : Eval d Value :=
  match t.kind, t.payload with
  | .intLiteral, .int n => return .int n
  | .stringLiteral, payload => return .string payload.display
  | .boolLiteral, payload => return .bool payload.truth
  | .identifier, payload => do
    match ← read fun m => m.scope.get? payload.display with
    | some v => return v
    | none => raise (.undefinedVariable payload.display) span
  | kind, _ =>
    if c.settings.permissiveLeaves then do
      note (.leafPassedOver kind)
      return .nothing
    else raise (.invalidExpression (if t.lexeme.isEmpty then kind.name else t.lexeme)) span

/-- Runs the statements of a body, up to the first one after which the innermost call is
returning. -/
def runBody (evalOne : Expr → Eval d Value) : List Expr → Eval d Unit
  | [] => return ()
  | e :: es => do
    let _ ← evalOne e
    match ← returning with
    | some _ => return ()
    | none => runBody evalOne es

/-- Defines a function in the scope. -/
def defineFunction (name : String) (params : List Param) (body : List Expr) (returnType : String)
    (span : Option Span) : Eval d Value := do
  let params ← ofExcept (params.mapM Param.resolve)
  let returnType ← ofExcept (resolveType returnType span)
  bindName name (.fn (.user ⟨name, params, body, returnType⟩))
  let scope ← read fun m => m.scope.name
  note (.functionDefined name params.length scope)
  return .nothing

/-- Calls a function of the program, given a way to run its body one call deeper if that is
allowed. -/
def callUser (c : Context)
    (enter : (d : Int) < c.settings.maxCallDepth → List Expr → Eval (d + 1) Unit)
    (f : UserFunction) (args : List Value) (span : Option Span) : Eval d Value :=
  if allowed : (d : Int) < c.settings.maxCallDepth then
    if args.length = f.params.length then do
      let scope ← read fun m => m.scope.snapshot ("call:" ++ f.name)
      let scope ← ofExcept (bindArguments c.settings f.name args span f.params scope)
      note (.functionCalled f.name (d + 1))
      let v ← insideCall f.name scope (enter allowed f.body)
      ofExcept (checkResult c.settings f span v)
    else raise (.arityMismatch f.name f.params.length args.length) span
  else fail (depthFailure c.settings.maxCallDepth span)

/-- Calls what a name is bound to. -/
def callNamed (c : Context)
    (enter : (d : Int) < c.settings.maxCallDepth → List Expr → Eval (d + 1) Unit)
    (name : String) (args : List Value) (span : Option Span) : Eval d Value := do
  match ← read fun m => m.scope.get? name with
  | none => raise (.undefinedFunction name) span
  | some (.fn (.builtin name returnType)) => c.registry.call name args returnType
  | some (.fn (.user f)) => callUser c enter f args span
  | some v => raise (.notCallable name (some v.type)) span

/-- Leaves a value to be returned, unless there is one; gives the value that is returned. -/
def signalReturn (v : Value) : Eval d Value := do
  update fun m => { m with stack := m.stack.signal v }
  return (← returning).getD v

/-- What the arguments of a call come to. -/
inductive Arguments where
  /-- All have values. -/
  | values (vs : List Value)
  /-- One of them executed a `return` with this value. -/
  | returned (v : Value)

section

variable (c : Context) (enter : (d : Int) < c.settings.maxCallDepth → List Expr → Eval (d + 1) Unit)

mutual

/-- The value of an expression, given a way to run a body one call deeper if that is allowed. -/
def evalWith : Expr → Eval d Value
  | .leaf t span => evalLeaf c t span
  | .assign target value span =>
    match target.identifier? with
    | none => raise (.invalidExpression target.text) span
    | some name => do
      let v ← evalWith value
      unlessReturning do
        bindName name.payload.display v
        return .nothing
  | .binary op left right span => do
    let l ← evalWith left
    unlessReturning do
      let r ← evalWith right
      unlessReturning (ofExcept ((op.apply l r).mapError fun cause => .located cause span))
  | .call name args span => do
    match ← evalArgs args with
    | .returned v => return v
    | .values vs => callNamed c enter name vs span
  | .define name params body returnType span => defineFunction name params body returnType span
  | .ret inner span =>
    if d = 0 then raise .returnOutsideFunction span
    else do
      let v ← evalWith inner
      signalReturn v
  | .hole => raise (.invalidExpression "Expr")

/-- The values of arguments, from left to right, up to the first one that executes a `return`. -/
def evalArgs : List Expr → Eval d Arguments
  | [] => return .values []
  | e :: es => do
    let v ← evalWith e
    match ← returning with
    | some v => return .returned v
    | none =>
      match ← evalArgs es with
      | .values vs => return .values (v :: vs)
      | .returned v => return .returned v

end

end

/-- The value of an expression inside of `d` calls. -/
def eval (c : Context) (d : Nat) : Expr → Eval d Value :=
  evalWith c fun _ => runBody (eval c (d + 1))
termination_by c.settings.maxCallDepth.toNat - d
decreasing_by omega

end Eval

end Scriptlet
