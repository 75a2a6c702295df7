import Mathlib.Tactic.Lemma
import Scriptlet.Eval

/-!
# Evaluation by rules

What an expression means, said without frames.  Evaluation starts in a world, which is the scope
with what has been printed and noted, and ends in a world: normally, with a value, or by an exit,
which is a `return` with its value or a failure.  An exit of a part is at once the exit of the
whole, whatever the whole still had to do, up to the nearest call, which makes a `return` the
normal value of the call.

The rules know the number `d` of calls around an expression, because a `return` needs one and a
limit bounds them, but no machine.  That the machine of `Scriptlet.Machine` does what the rules
say is the subject of `Scriptlet.Proofs.Evaluation.Agreement`.
-/

namespace Scriptlet

/-- What evaluation changes, apart from the frames of the calls it is inside of. -/
structure World where
  /-- The scope that names are bound in. -/
  scope : Scope
  /-- What has been printed. -/
  output : String := ""
  /-- What has been noted. -/
  log : Array Note := #[]

namespace World

/-- The world with a name bound to a value. -/
def bind (w : World) (name : String) (v : Value) : World := { w with scope := w.scope.set name v }

/-- The world with one more note. -/
def note (w : World) (n : Note) : World := { w with log := w.log.push n }

/-- The world with more text printed. -/
def print (w : World) (s : String) : World := { w with output := w.output ++ s }

/-- A machine in a given world, inside of given calls. -/
def on {d : Nat} (w : World) (s : CallStack d) : Machine d := ⟨w.scope, s, w.output, w.log⟩

@[simp] lemma scope_on {d : Nat} (w : World) (s : CallStack d) : (w.on s).scope = w.scope := rfl

@[simp] lemma stack_on {d : Nat} (w : World) (s : CallStack d) : (w.on s).stack = s := rfl

@[simp] lemma output_on {d : Nat} (w : World) (s : CallStack d) : (w.on s).output = w.output := rfl

@[simp] lemma log_on {d : Nat} (w : World) (s : CallStack d) : (w.on s).log = w.log := rfl

end World

/-- The world that a machine is in. -/
def Machine.world {d : Nat} (m : Machine d) : World := ⟨m.scope, m.output, m.log⟩

namespace Eval

/-- How evaluation ends early. -/
inductive Exit where
  /-- A `return` was executed, with this value. -/
  | returned (v : Value)
  /-- Evaluation failed. -/
  | failed (f : Failure)

/-- The value of a `return`, if that is how evaluation ended. -/
def Exit.returned? : Exit → Option Value
  | returned v => some v
  | failed _ => none

/-- How evaluation ends. -/
inductive Completion (α : Type) where
  /-- With a result. -/
  | normal (a : α)
  /-- Early. -/
  | abrupt (x : Exit)

namespace Completion

variable {α : Type}

/-- The ending of something that has a result or fails. -/
def ofResult : Except Failure α → Completion α
  | .ok a => normal a
  | .error f => abrupt (.failed f)

/-- The value of a `return`, if that is how evaluation ended. -/
def returned? : Completion α → Option Value
  | normal _ => none
  | abrupt x => x.returned?

/-- The value of an expression that ends so: the value of a `return` stands for the expression. -/
def value : Completion Value → Except Failure Value
  | normal v => .ok v
  | abrupt (.returned v) => .ok v
  | abrupt (.failed f) => .error f

/-- The value of a call whose body ends so. -/
def callValue : Completion Unit → Except Failure Value
  | normal () => .ok .nothing
  | abrupt (.returned v) => .ok v
  | abrupt (.failed f) => .error f

end Completion

/-- What can be evaluated, by the type of its results. -/
inductive Phrase : Type → Type where
  /-- An expression. -/
  | expr (e : Expr) : Phrase Value
  /-- The arguments of a call. -/
  | args (es : List Expr) : Phrase (List Value)
  /-- A call of what a name is bound to, once its arguments have values. -/
  | apply (name : String) (vs : List Value) (span : Option Span) : Phrase Value
  /-- The statements of the body of a function. -/
  | body (es : List Expr) : Phrase Unit

/-- The value that a literal stands for. -/
def literal? (t : Token) : Option Value :=
  match t.kind, t.payload with
  | .intLiteral, .int n => some (.int n)
  | .stringLiteral, p => some (.string p.display)
  | .boolLiteral, p => some (.bool p.truth)
  | _, _ => none

/-- The types that the annotations of a definition name. -/
def resolveSignature (params : List Param) (returnType : String) (span : Option Span) :
    Except Failure (List TypedParam × ValueType) := do
  let params ← params.mapM Param.resolve
  let returnType ← resolveType returnType span
  return (params, returnType)

/-- What a call of a built-in function gives, and the world that it leaves. -/
def answer (r : Registry) (name : String) (vs : List Value) (promised : ValueType) (w : World) :
    Except Failure Value × World :=
  match r.find? name with
  | none => (.error (.located (.unknownBuiltin name) none), w)
  | some b =>
    match b.rejection? vs with
    | some cause => (.error (.located cause none), w)
    | none =>
      let w := (w.note (.builtinCalled name vs.length)).print (b.run vs).printed
      match (b.run vs).result with
      | .error f => (.error f, w)
      | .ok v =>
        if v.type = promised then (.ok v, w)
        else (.error (.located
          (.typeMismatch ("result of '" ++ name ++ "'") promised.name [v.type]) none), w)

/-- The world that the body of a function starts in. -/
def entered (d : Nat) (f : UserFunction) (w : World) (scope : Scope) : World :=
  ⟨scope, w.output, w.log.push (.functionCalled f.name (d + 1))⟩

/-- The scope that the body of a function starts in: a copy of the caller's with the parameters
bound over it. -/
def callScope (c : Context) (f : UserFunction) (vs : List Value) (span : Option Span)
    (caller : Scope) : Except Failure Scope :=
  bindArguments c.settings f.name vs span f.params (caller.snapshot ("call:" ++ f.name))

open Completion Phrase

/-- `Evaluates c d p w o w'`: inside of `d` calls and in the world `w`, the phrase `p` ends with `o`
in the world `w'`. -/
inductive Evaluates (c : Context) :
    {α : Type} → (d : Nat) → Phrase α → World → Completion α → World → Prop
  /-- A literal has its value. -/
  | literal {d : Nat} {w : World} {t : Token} {s : Option Span} {v : Value}
      (h : literal? t = some v) : Evaluates c d (expr (.leaf t s)) w (normal v) w
  /-- A name has the value that it is bound to. -/
  | bound {d : Nat} {w : World} {t : Token} {s : Option Span} {v : Value}
      (h : t.kind = .identifier) (hv : w.scope.get? t.payload.display = some v) :
      Evaluates c d (expr (.leaf t s)) w (normal v) w
  /-- A name that is not bound has no value. -/
  | unbound {d : Nat} {w : World} {t : Token} {s : Option Span}
      (h : t.kind = .identifier) (hv : w.scope.get? t.payload.display = none) :
      Evaluates c d (expr (.leaf t s)) w
        (abrupt (.failed (.located (.undefinedVariable t.payload.display) s))) w
  /-- Any other leaf is nothing, where the settings permit it. -/
  | passedOver {d : Nat} {w : World} {t : Token} {s : Option Span}
      (h : t.kind ≠ .identifier) (hv : literal? t = none)
      (permitted : c.settings.permissiveLeaves = true) :
      Evaluates c d (expr (.leaf t s)) w (normal .nothing) (w.note (.leafPassedOver t.kind))
  /-- Any other leaf fails, where the settings do not permit it. -/
  | rejected {d : Nat} {w : World} {t : Token} {s : Option Span}
      (h : t.kind ≠ .identifier) (hv : literal? t = none)
      (permitted : c.settings.permissiveLeaves = false) :
      Evaluates c d (expr (.leaf t s)) w
        (abrupt (.failed (.located
          (.invalidExpression (if t.lexeme.isEmpty then t.kind.name else t.lexeme)) s))) w
  /-- Only names can be assigned to. -/
  | assignNothing {d : Nat} {w : World} {target value : Expr} {s : Option Span}
      (h : target.identifier? = none) :
      Evaluates c d (expr (.assign target value s)) w
        (abrupt (.failed (.located (.invalidExpression target.text) s))) w
  /-- An assignment binds its name and has no value of its own. -/
  | assign {d : Nat} {w w' : World} {target value : Expr} {s : Option Span} {t : Token} {v : Value}
      (h : target.identifier? = some t) (hv : Evaluates c d (expr value) w (normal v) w') :
      Evaluates c d (expr (.assign target value s)) w (normal .nothing)
        (w'.bind t.payload.display v)
  /-- An exit of the right side is the exit of the assignment, which binds nothing. -/
  | assignExit {d : Nat} {w w' : World} {target value : Expr} {s : Option Span} {t : Token}
      {x : Exit} (h : target.identifier? = some t)
      (hv : Evaluates c d (expr value) w (abrupt x) w') :
      Evaluates c d (expr (.assign target value s)) w (abrupt x) w'
  /-- An operator is applied to the values of its operands, the left one evaluated first. -/
  | binary {d : Nat} {w w₁ w' : World} {op : Operator} {left right : Expr} {s : Option Span}
      {l r : Value} (hl : Evaluates c d (expr left) w (normal l) w₁)
      (hr : Evaluates c d (expr right) w₁ (normal r) w') :
      Evaluates c d (expr (.binary op left right s)) w
        (ofResult ((op.apply l r).mapError fun cause => .located cause s)) w'
  /-- An exit of the left operand leaves the right one unevaluated. -/
  | binaryExitLeft {d : Nat} {w w' : World} {op : Operator} {left right : Expr} {s : Option Span}
      {x : Exit} (hl : Evaluates c d (expr left) w (abrupt x) w') :
      Evaluates c d (expr (.binary op left right s)) w (abrupt x) w'
  /-- An exit of the right operand leaves the operator unapplied. -/
  | binaryExitRight {d : Nat} {w w₁ w' : World} {op : Operator} {left right : Expr}
      {s : Option Span} {l : Value} {x : Exit} (hl : Evaluates c d (expr left) w (normal l) w₁)
      (hr : Evaluates c d (expr right) w₁ (abrupt x) w') :
      Evaluates c d (expr (.binary op left right s)) w (abrupt x) w'
  /-- What a name is bound to is called once the arguments have values. -/
  | call {d : Nat} {w w₁ w' : World} {name : String} {es : List Expr} {s : Option Span}
      {vs : List Value} {o : Completion Value} (hes : Evaluates c d (args es) w (normal vs) w₁)
      (ho : Evaluates c d (apply name vs s) w₁ o w') :
      Evaluates c d (expr (.call name es s)) w o w'
  /-- An exit of an argument leaves the name uncalled. -/
  | callExit {d : Nat} {w w' : World} {name : String} {es : List Expr} {s : Option Span} {x : Exit}
      (hes : Evaluates c d (args es) w (abrupt x) w') :
      Evaluates c d (expr (.call name es s)) w (abrupt x) w'
  /-- A definition binds its name to a function. -/
  | define {d : Nat} {w : World} {name : String} {ps : List Param} {body : List Expr}
      {returnType : String} {s : Option Span} {params : List TypedParam} {type : ValueType}
      (h : resolveSignature ps returnType s = .ok (params, type)) :
      Evaluates c d (expr (.define name ps body returnType s)) w (normal .nothing)
        ((w.bind name (.fn (.user ⟨name, params, body, type⟩))).note
          (.functionDefined name params.length w.scope.name))
  /-- A definition fails if one of its annotations names no type. -/
  | defineExit {d : Nat} {w : World} {name : String} {ps : List Param} {body : List Expr}
      {returnType : String} {s : Option Span} {f : Failure}
      (h : resolveSignature ps returnType s = .error f) :
      Evaluates c d (expr (.define name ps body returnType s)) w (abrupt (.failed f)) w
  /-- A `return` outside of all calls fails before its operand is evaluated. -/
  | retOutside {w : World} {inner : Expr} {s : Option Span} :
      Evaluates c 0 (expr (.ret inner s)) w
        (abrupt (.failed (.located .returnOutsideFunction s))) w
  /-- A `return` exits with the value of its operand. -/
  | ret {d : Nat} {w w' : World} {inner : Expr} {s : Option Span} {v : Value}
      (h : Evaluates c (d + 1) (expr inner) w (normal v) w') :
      Evaluates c (d + 1) (expr (.ret inner s)) w (abrupt (.returned v)) w'
  /-- An exit of the operand of a `return` comes first. -/
  | retExit {d : Nat} {w w' : World} {inner : Expr} {s : Option Span} {x : Exit}
      (h : Evaluates c (d + 1) (expr inner) w (abrupt x) w') :
      Evaluates c (d + 1) (expr (.ret inner s)) w (abrupt x) w'
  /-- A node of no kind has no value. -/
  | hole {d : Nat} {w : World} :
      Evaluates c d (expr .hole) w
        (abrupt (.failed (.located (.invalidExpression "Expr") none))) w
  /-- No arguments have no values. -/
  | argsEnd {d : Nat} {w : World} : Evaluates c d (args []) w (normal []) w
  /-- Arguments are evaluated from left to right. -/
  | argsNext {d : Nat} {w w₁ w' : World} {e : Expr} {es : List Expr} {v : Value} {vs : List Value}
      (he : Evaluates c d (expr e) w (normal v) w₁)
      (hes : Evaluates c d (args es) w₁ (normal vs) w') :
      Evaluates c d (args (e :: es)) w (normal (v :: vs)) w'
  /-- An exit of an argument leaves those after it unevaluated. -/
  | argsExit {d : Nat} {w w' : World} {e : Expr} {es : List Expr} {x : Exit}
      (he : Evaluates c d (expr e) w (abrupt x) w') :
      Evaluates c d (args (e :: es)) w (abrupt x) w'
  /-- An exit of a later argument. -/
  | argsExitLater {d : Nat} {w w₁ w' : World} {e : Expr} {es : List Expr} {v : Value} {x : Exit}
      (he : Evaluates c d (expr e) w (normal v) w₁)
      (hes : Evaluates c d (args es) w₁ (abrupt x) w') :
      Evaluates c d (args (e :: es)) w (abrupt x) w'
  /-- A name that is not bound cannot be called. -/
  | undefined {d : Nat} {w : World} {name : String} {vs : List Value} {s : Option Span}
      (h : w.scope.get? name = none) :
      Evaluates c d (apply name vs s) w
        (abrupt (.failed (.located (.undefinedFunction name) s))) w
  /-- A name that is bound to no function cannot be called. -/
  | notCallable {d : Nat} {w : World} {name : String} {vs : List Value} {s : Option Span}
      {v : Value} (h : w.scope.get? name = some v) (hv : ∀ f, v ≠ .fn f) :
      Evaluates c d (apply name vs s) w
        (abrupt (.failed (.located (.notCallable name (some v.type)) s))) w
  /-- A built-in function is called through the registry. -/
  | builtin {d : Nat} {w : World} {name builtinName : String} {vs : List Value} {s : Option Span}
      {promised : ValueType} (h : w.scope.get? name = some (.fn (.builtin builtinName promised))) :
      Evaluates c d (apply name vs s) w (ofResult (answer c.registry builtinName vs promised w).1)
        (answer c.registry builtinName vs promised w).2
  /-- A call beyond the limit fails, whatever its arguments are. -/
  | tooDeep {d : Nat} {w : World} {name : String} {vs : List Value} {s : Option Span}
      {f : UserFunction} (h : w.scope.get? name = some (.fn (.user f)))
      (depth : c.settings.maxCallDepth ≤ d) :
      Evaluates c d (apply name vs s) w
        (abrupt (.failed (depthFailure c.settings.maxCallDepth s))) w
  /-- A call with a wrong number of arguments fails. -/
  | wrongArity {d : Nat} {w : World} {name : String} {vs : List Value} {s : Option Span}
      {f : UserFunction} (h : w.scope.get? name = some (.fn (.user f)))
      (depth : (d : Int) < c.settings.maxCallDepth) (arity : vs.length ≠ f.params.length) :
      Evaluates c d (apply name vs s) w
        (abrupt (.failed (.located (.arityMismatch f.name f.params.length vs.length) s))) w
  /-- A call whose arguments cannot be bound to the parameters fails. -/
  | unbindable {d : Nat} {w : World} {name : String} {vs : List Value} {s : Option Span}
      {f : UserFunction} {e : Failure} (h : w.scope.get? name = some (.fn (.user f)))
      (depth : (d : Int) < c.settings.maxCallDepth) (arity : vs.length = f.params.length)
      (hs : callScope c f vs s w.scope = .error e) :
      Evaluates c d (apply name vs s) w (abrupt (.failed e)) w
  /-- A call ends when its body does, with the value that the body returned, if it did; the
  caller's scope is as it was. -/
  | user {d : Nat} {w w' : World} {name : String} {vs : List Value} {s : Option Span}
      {f : UserFunction} {scope : Scope} {o : Completion Unit}
      (h : w.scope.get? name = some (.fn (.user f)))
      (depth : (d : Int) < c.settings.maxCallDepth) (arity : vs.length = f.params.length)
      (hs : callScope c f vs s w.scope = .ok scope)
      (ho : Evaluates c (d + 1) (body f.body) (entered d f w scope) o w') :
      Evaluates c d (apply name vs s) w
        (ofResult (o.callValue.bind (checkResult c.settings f s)))
        ⟨w.scope, w'.output, w'.log⟩
  /-- A body without statements ends normally. -/
  | bodyEnd {d : Nat} {w : World} : Evaluates c d (body []) w (normal ()) w
  /-- The statements of a body are evaluated in order. -/
  | bodyNext {d : Nat} {w w₁ w' : World} {e : Expr} {es : List Expr} {v : Value}
      {o : Completion Unit} (he : Evaluates c d (expr e) w (normal v) w₁)
      (hes : Evaluates c d (body es) w₁ o w') : Evaluates c d (body (e :: es)) w o w'
  /-- An exit of a statement is the exit of the body. -/
  | bodyExit {d : Nat} {w w' : World} {e : Expr} {es : List Expr} {x : Exit}
      (he : Evaluates c d (expr e) w (abrupt x) w') :
      Evaluates c d (body (e :: es)) w (abrupt x) w'

end Eval

end Scriptlet
