import Mathlib.Logic.Relation
import Mathlib.Tactic.Lemma
import Scriptlet.Proofs.Evaluation.Rules

/-!
# What an evaluation comes by

An evaluation evaluates parts, and those have parts of their own, the bodies of the functions that
are called among them.  `Visits c k k'` says that the evaluation of `k` comes by `k'`, and
`Raises c k f` that `k` fails with `f` while none of its parts does.  An evaluation fails if and
only if it comes by a place that raises its failure (`fails_iff`), so that whatever holds of all
that is come by holds where something goes wrong.
-/

namespace Scriptlet.Eval

open Phrase

/-- A phrase that is to be evaluated, with the number of calls around it and the world. -/
structure Config where
  /-- The type of the results. -/
  {α : Type}
  /-- The number of calls around the phrase. -/
  depth : Nat
  /-- The phrase. -/
  phrase : Phrase α
  /-- The world that its evaluation starts in. -/
  world : World

/-- `Enters c k k'`: evaluating `k` comes to its part `k'`. -/
inductive Enters (c : Context) : Config → Config → Prop
  /-- The right side of an assignment. -/
  | value {d : Nat} {w : World} {target e : Expr} {s : Option Span} {t : Token}
      (h : target.identifier? = some t) :
      Enters c ⟨d, expr (.assign target e s), w⟩ ⟨d, expr e, w⟩
  /-- The left operand of an operator. -/
  | left {d : Nat} {w : World} {op : Operator} {left right : Expr} {s : Option Span} :
      Enters c ⟨d, expr (.binary op left right s), w⟩ ⟨d, expr left, w⟩
  /-- The right operand, once the left one has a value. -/
  | right {d : Nat} {w w₁ : World} {op : Operator} {left right : Expr} {s : Option Span}
      {l : Value} (hl : Evaluates c d (expr left) w (.normal l) w₁) :
      Enters c ⟨d, expr (.binary op left right s), w⟩ ⟨d, expr right, w₁⟩
  /-- The arguments of a call. -/
  | arguments {d : Nat} {w : World} {name : String} {es : List Expr} {s : Option Span} :
      Enters c ⟨d, expr (.call name es s), w⟩ ⟨d, args es, w⟩
  /-- The call itself, once the arguments have values. -/
  | callee {d : Nat} {w w₁ : World} {name : String} {es : List Expr} {s : Option Span}
      {vs : List Value} (hes : Evaluates c d (args es) w (.normal vs) w₁) :
      Enters c ⟨d, expr (.call name es s), w⟩ ⟨d, apply name vs s, w₁⟩
  /-- The operand of a `return`. -/
  | operand {d : Nat} {w : World} {inner : Expr} {s : Option Span} :
      Enters c ⟨d + 1, expr (.ret inner s), w⟩ ⟨d + 1, expr inner, w⟩
  /-- The first argument. -/
  | firstArg {d : Nat} {w : World} {e : Expr} {es : List Expr} :
      Enters c ⟨d, args (e :: es), w⟩ ⟨d, expr e, w⟩
  /-- The arguments behind the first one, once it has a value. -/
  | moreArgs {d : Nat} {w w₁ : World} {e : Expr} {es : List Expr} {v : Value}
      (he : Evaluates c d (expr e) w (.normal v) w₁) :
      Enters c ⟨d, args (e :: es), w⟩ ⟨d, args es, w₁⟩
  /-- The body of the function that is called. -/
  | body {d : Nat} {w : World} {name : String} {vs : List Value} {s : Option Span}
      {f : UserFunction} {scope : Scope} (h : w.scope.get? name = some (.fn (.user f)))
      (depth : (d : Int) < c.settings.maxCallDepth) (arity : vs.length = f.params.length)
      (hs : callScope c f vs s w.scope = .ok scope) :
      Enters c ⟨d, apply name vs s, w⟩ ⟨d + 1, Phrase.body f.body, entered d f w scope⟩
  /-- The first statement of a body. -/
  | firstStatement {d : Nat} {w : World} {e : Expr} {es : List Expr} :
      Enters c ⟨d, Phrase.body (e :: es), w⟩ ⟨d, expr e, w⟩
  /-- The statements behind the first one, once it is done. -/
  | moreStatements {d : Nat} {w w₁ : World} {e : Expr} {es : List Expr} {v : Value}
      (he : Evaluates c d (expr e) w (.normal v) w₁) :
      Enters c ⟨d, Phrase.body (e :: es), w⟩ ⟨d, Phrase.body es, w₁⟩

/-- Evaluating `k` fails with `f`. -/
def Fails (c : Context) (k : Config) (f : Failure) : Prop :=
  ∃ w', Evaluates c k.depth k.phrase k.world (.abrupt (.failed f)) w'

/-- `Visits c k k'`: evaluating `k` comes by `k'`. -/
def Visits (c : Context) : Config → Config → Prop := Relation.ReflTransGen (Enters c)

/-- `Raises c k f`: evaluating `k` fails with `f`, and none of its parts does. -/
inductive Raises (c : Context) : Config → Failure → Prop
  /-- A name that is not bound. -/
  | unbound {d : Nat} {w : World} {t : Token} {s : Option Span} (h : t.kind = .identifier)
      (hv : w.scope.get? t.payload.display = none) :
      Raises c ⟨d, expr (.leaf t s), w⟩ (.located (.undefinedVariable t.payload.display) s)
  /-- A leaf without a value. -/
  | rejected {d : Nat} {w : World} {t : Token} {s : Option Span} (h : t.kind ≠ .identifier)
      (hv : literal? t = none) (permitted : c.settings.permissiveLeaves = false) :
      Raises c ⟨d, expr (.leaf t s), w⟩
        (.located (.invalidExpression (if t.lexeme.isEmpty then t.kind.name else t.lexeme)) s)
  /-- An assignment to something that is no name. -/
  | assignNothing {d : Nat} {w : World} {target value : Expr} {s : Option Span}
      (h : target.identifier? = none) :
      Raises c ⟨d, expr (.assign target value s), w⟩ (.located (.invalidExpression target.text) s)
  /-- An operator that does not take the values of its operands. -/
  | operator {d : Nat} {w w₁ w' : World} {op : Operator} {left right : Expr} {s : Option Span}
      {l r : Value} {cause : Cause} (hl : Evaluates c d (expr left) w (.normal l) w₁)
      (hr : Evaluates c d (expr right) w₁ (.normal r) w') (h : op.apply l r = .error cause) :
      Raises c ⟨d, expr (.binary op left right s), w⟩ (.located cause s)
  /-- A definition one of whose annotations names no type. -/
  | define {d : Nat} {w : World} {name : String} {ps : List Param} {es : List Expr}
      {returnType : String} {s : Option Span} {f : Failure}
      (h : resolveSignature ps returnType s = .error f) :
      Raises c ⟨d, expr (.define name ps es returnType s), w⟩ f
  /-- A `return` outside of all calls. -/
  | outside {w : World} {inner : Expr} {s : Option Span} :
      Raises c ⟨0, expr (.ret inner s), w⟩ (.located .returnOutsideFunction s)
  /-- A node of no kind. -/
  | hole {d : Nat} {w : World} :
      Raises c ⟨d, expr .hole, w⟩ (.located (.invalidExpression "Expr") none)
  /-- A called name that is not bound. -/
  | undefined {d : Nat} {w : World} {name : String} {vs : List Value} {s : Option Span}
      (h : w.scope.get? name = none) :
      Raises c ⟨d, apply name vs s, w⟩ (.located (.undefinedFunction name) s)
  /-- A called name that is bound to no function. -/
  | notCallable {d : Nat} {w : World} {name : String} {vs : List Value} {s : Option Span}
      {v : Value} (h : w.scope.get? name = some v) (hv : ∀ f, v ≠ .fn f) :
      Raises c ⟨d, apply name vs s, w⟩ (.located (.notCallable name (some v.type)) s)
  /-- A built-in function that fails. -/
  | builtin {d : Nat} {w : World} {name builtinName : String} {vs : List Value} {s : Option Span}
      {promised : ValueType} {f : Failure}
      (h : w.scope.get? name = some (.fn (.builtin builtinName promised)))
      (ha : (answer c.registry builtinName vs promised w).1 = .error f) :
      Raises c ⟨d, apply name vs s, w⟩ f
  /-- A call beyond the limit. -/
  | tooDeep {d : Nat} {w : World} {name : String} {vs : List Value} {s : Option Span}
      {f : UserFunction} (h : w.scope.get? name = some (.fn (.user f)))
      (depth : c.settings.maxCallDepth ≤ d) :
      Raises c ⟨d, apply name vs s, w⟩ (depthFailure c.settings.maxCallDepth s)
  /-- A call with a wrong number of arguments. -/
  | wrongArity {d : Nat} {w : World} {name : String} {vs : List Value} {s : Option Span}
      {f : UserFunction} (h : w.scope.get? name = some (.fn (.user f)))
      (depth : (d : Int) < c.settings.maxCallDepth) (arity : vs.length ≠ f.params.length) :
      Raises c ⟨d, apply name vs s, w⟩
        (.located (.arityMismatch f.name f.params.length vs.length) s)
  /-- A call whose arguments cannot be bound to the parameters. -/
  | unbindable {d : Nat} {w : World} {name : String} {vs : List Value} {s : Option Span}
      {f : UserFunction} {e : Failure} (h : w.scope.get? name = some (.fn (.user f)))
      (depth : (d : Int) < c.settings.maxCallDepth) (arity : vs.length = f.params.length)
      (hs : callScope c f vs s w.scope = .error e) :
      Raises c ⟨d, apply name vs s, w⟩ e
  /-- A call whose result is not of the type that was declared. -/
  | result {d : Nat} {w w' : World} {name : String} {vs : List Value} {s : Option Span}
      {f : UserFunction} {scope : Scope} {o : Completion Unit} {v : Value} {e : Failure}
      (h : w.scope.get? name = some (.fn (.user f)))
      (depth : (d : Int) < c.settings.maxCallDepth) (arity : vs.length = f.params.length)
      (hs : callScope c f vs s w.scope = .ok scope)
      (ho : Evaluates c (d + 1) (Phrase.body f.body) (entered d f w scope) o w')
      (hv : o.callValue = .ok v) (hr : checkResult c.settings f s v = .error e) :
      Raises c ⟨d, apply name vs s, w⟩ e

section

variable {c : Context} {k k' : Config} {f : Failure}

/-- The failure is raised somewhere on the way. -/
def RaisedIn (c : Context) (k : Config) (f : Failure) : Prop := ∃ k', Visits c k k' ∧ Raises c k' f

lemma Raises.raisedIn (h : Raises c k f) : RaisedIn c k f := ⟨k, .refl, h⟩

/-- What is raised in a part is raised in the whole. -/
lemma Enters.raisedIn (h : Enters c k k') (hf : RaisedIn c k' f) : RaisedIn c k f := by
  obtain ⟨k'', hv, hr⟩ := hf
  exact ⟨k'', .head h hv, hr⟩

/-- What holds at the start and is handed on from each phrase to its parts holds all the way. -/
lemma Visits.invariant {p : Config → Prop} (h : Visits c k k')
    (step : ∀ k k', Enters c k k' → p k → p k') (hk : p k) : p k' := by
  induction h with
  | refl => exact hk
  | tail _ henter ih => exact step _ _ henter ih

end

lemma Completion.ofResult_eq_failed {α : Type} {x : Except Failure α} {f : Failure}
    (h : Completion.ofResult x = .abrupt (.failed f)) : x = .error f := by
  cases x <;> cases h
  rfl

lemma Completion.callValue_eq_error {o : Completion Unit} {f : Failure}
    (h : o.callValue = .error f) : o = .abrupt (.failed f) := by
  rcases o with _ | _ | _ <;> cases h
  rfl

/-- A failure of the whole is raised somewhere on the way. -/
lemma Evaluates.raised {c : Context} {d : Nat} {α : Type} {p : Phrase α} {w w' : World}
    {o : Completion α} (h : Evaluates c d p w o w') {f : Failure} (ho : o = .abrupt (.failed f)) :
    RaisedIn c ⟨d, p, w⟩ f := by
  induction h with
  | literal _ | bound _ _ | passedOver _ _ _ | assign _ _ _ | define _ | ret _ _ | argsEnd
  | argsNext _ _ _ _ | bodyEnd => cases ho
  | unbound h hv => cases ho; exact (Raises.unbound h hv).raisedIn
  | rejected h hv permitted => cases ho; exact (Raises.rejected h hv permitted).raisedIn
  | assignNothing h => cases ho; exact (Raises.assignNothing h).raisedIn
  | assignExit h _ ih => cases ho; exact (Enters.value h).raisedIn (ih rfl)
  | binary hl hr =>
    rename_i op _ _ s l r _ _
    have happly := Completion.ofResult_eq_failed ho
    cases hop : op.apply l r with
    | ok v => rw [hop] at happly; cases happly
    | error cause =>
      rw [hop] at happly
      cases happly
      exact (Raises.operator hl hr hop).raisedIn
  | binaryExitLeft _ ih => cases ho; exact Enters.left.raisedIn (ih rfl)
  | binaryExitRight hl _ _ ih => cases ho; exact (Enters.right hl).raisedIn (ih rfl)
  | call hes _ _ ih => exact (Enters.callee hes).raisedIn (ih ho)
  | callExit _ ih => cases ho; exact Enters.arguments.raisedIn (ih rfl)
  | defineExit h => cases ho; exact (Raises.define h).raisedIn
  | retOutside => cases ho; exact Raises.outside.raisedIn
  | retExit _ ih => cases ho; exact Enters.operand.raisedIn (ih rfl)
  | hole => cases ho; exact Raises.hole.raisedIn
  | argsExit _ ih => cases ho; exact Enters.firstArg.raisedIn (ih rfl)
  | argsExitLater he _ _ ih => cases ho; exact (Enters.moreArgs he).raisedIn (ih rfl)
  | undefined h => cases ho; exact (Raises.undefined h).raisedIn
  | notCallable h hv => cases ho; exact (Raises.notCallable h hv).raisedIn
  | builtin h => exact (Raises.builtin h (Completion.ofResult_eq_failed ho)).raisedIn
  | tooDeep h depth =>
    rw [← Exit.failed.inj (Completion.abrupt.inj ho)]
    exact (Raises.tooDeep h depth).raisedIn
  | wrongArity h depth arity => cases ho; exact (Raises.wrongArity h depth arity).raisedIn
  | unbindable h depth arity hs => cases ho; exact (Raises.unbindable h depth arity hs).raisedIn
  | user h depth arity hs hbody ih =>
    rename_i o
    have hresult := Completion.ofResult_eq_failed ho
    -- either the body fails or its value is not of the type that was declared
    cases hvalue : o.callValue with
    | error e =>
      rw [hvalue] at hresult
      cases hresult
      exact (Enters.body h depth arity hs).raisedIn (ih (Completion.callValue_eq_error hvalue))
    | ok v =>
      rw [hvalue] at hresult
      exact (Raises.result h depth arity hs hbody hvalue hresult).raisedIn
  | bodyNext he _ _ ih => exact (Enters.moreStatements he).raisedIn (ih ho)
  | bodyExit _ ih => cases ho; exact Enters.firstStatement.raisedIn (ih rfl)

section

variable {c : Context} {k k' : Config} {f : Failure}

lemma Raises.fails (h : Raises c k f) : Fails c k f := by
  cases h with
  | unbound h hv => exact ⟨_, .unbound h hv⟩
  | rejected h hv permitted => exact ⟨_, .rejected h hv permitted⟩
  | assignNothing h => exact ⟨_, .assignNothing h⟩
  | @operator d w w₁ w' op left right s l r cause hl hr h =>
    have := @Evaluates.binary c d w w₁ w' op left right s l r hl hr
    rw [h] at this
    exact ⟨_, this⟩
  | define h => exact ⟨_, .defineExit h⟩
  | outside => exact ⟨_, .retOutside⟩
  | hole => exact ⟨_, .hole⟩
  | undefined h => exact ⟨_, .undefined h⟩
  | notCallable h hv => exact ⟨_, .notCallable h hv⟩
  | @builtin d w name builtinName vs s promised f h ha =>
    have := @Evaluates.builtin c d w name builtinName vs s promised h
    rw [ha] at this
    exact ⟨_, this⟩
  | tooDeep h depth => exact ⟨_, .tooDeep h depth⟩
  | wrongArity h depth arity => exact ⟨_, .wrongArity h depth arity⟩
  | unbindable h depth arity hs => exact ⟨_, .unbindable h depth arity hs⟩
  | result h depth arity hs ho hv hr =>
    have := Evaluates.user h depth arity hs ho
    rw [hv, Except.bind, hr] at this
    exact ⟨_, this⟩

/-- A failure of a part is the failure of the whole, which prints no more. -/
lemma Enters.failed (h : Enters c k k') {w₁ : World}
    (hf : Evaluates c k'.depth k'.phrase k'.world (.abrupt (.failed f)) w₁) :
    ∃ w₂, Evaluates c k.depth k.phrase k.world (.abrupt (.failed f)) w₂ ∧
      w₂.output = w₁.output := by
  cases h with
  | value h => exact ⟨_, .assignExit h hf, rfl⟩
  | left => exact ⟨_, .binaryExitLeft hf, rfl⟩
  | right hl => exact ⟨_, .binaryExitRight hl hf, rfl⟩
  | arguments => exact ⟨_, .callExit hf, rfl⟩
  | callee hes => exact ⟨_, .call hes hf, rfl⟩
  | operand => exact ⟨_, .retExit hf, rfl⟩
  | firstArg => exact ⟨_, .argsExit hf, rfl⟩
  | moreArgs he => exact ⟨_, .argsExitLater he hf, rfl⟩
  | body h depth arity hs => exact ⟨_, .user h depth arity hs hf, rfl⟩
  | firstStatement => exact ⟨_, .bodyExit hf, rfl⟩
  | moreStatements he => exact ⟨_, .bodyNext he hf, rfl⟩

lemma Enters.fails (h : Enters c k k') (hf : Fails c k' f) : Fails c k f := by
  obtain ⟨w₁, hf⟩ := hf
  obtain ⟨w₂, hf, -⟩ := h.failed hf
  exact ⟨w₂, hf⟩

/-- **Failures have an origin and are not lost.**  Evaluation fails just when it comes by a place
that raises the failure: no part of an evaluation fails unnoticed, and nothing on the way out
replaces a failure by another one. -/
theorem fails_iff : Fails c k f ↔ RaisedIn c k f := by
  constructor
  · rintro ⟨w', h⟩
    exact h.raised rfl
  · rintro ⟨k', hv, hr⟩
    induction hv using Relation.ReflTransGen.head_induction_on with
    | refl => exact hr.fails
    | head henter _ ih => exact henter.fails ih

end

end Scriptlet.Eval
