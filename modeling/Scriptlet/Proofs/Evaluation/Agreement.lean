import Scriptlet.Proofs.Evaluation.Rules

/-!
# The machine follows the rules

The machine has no exits.  A `return` leaves its value in the innermost frame, and every
construct looks there after each of its parts.  This module shows that looking there is as good as
exiting: from a machine none of whose calls is returning, evaluation gives what the rules of
`Evaluates` say, leaves the world that they say, and leaves the frames as they were, except that
the innermost one holds the value of a `return` if that is how evaluation ended.
-/

namespace Scriptlet

namespace CallStack

variable {d : Nat}

/-- None of the calls is returning. -/
def Fresh (s : CallStack d) : Prop := ∀ f ∈ s.toList, f.shouldReturn = false

lemma fresh_push {s : CallStack d} (h : s.Fresh) (function : String) :
    (push { function } s).Fresh := by
  intro f hf
  rcases List.mem_cons.1 hf with rfl | hf
  · rfl
  · exact h f hf

lemma returned?_of_fresh {s : CallStack d} (h : s.Fresh) : s.returned? = none := by
  cases s with
  | empty => rfl
  | push frame below =>
    have := h frame (by simp [toList])
    simpa [Frame.shouldReturn, returned?] using this

lemma returned?_signal {s : CallStack d} (h : s.Fresh) (hd : 0 < d) (v : Value) :
    (s.signal v).returned? = some v := by
  cases s with
  | empty => exact absurd hd (Nat.lt_irrefl 0)
  | push frame below =>
    have := h frame (by simp [toList])
    simp [signal, returned?, this, Frame.signal]

/-- The first value that is left in a frame stays there. -/
lemma signal_signal {s : CallStack d} (h : s.Fresh) (v v' : Value) :
    (s.signal v).signal v' = s.signal v := by
  cases s with
  | empty => rfl
  | push frame below =>
    have : frame.shouldReturn = false := h frame (by simp [toList])
    simp only [signal, this, Bool.false_eq_true, if_false]
    rfl

/-- The calls after evaluation inside of them has ended: a `return` leaves its value in the
innermost one. -/
def after {α : Type} (s : CallStack d) (o : Eval.Completion α) : CallStack d :=
  match o.returned? with
  | some v => s.signal v
  | none => s

@[simp] lemma after_normal {α : Type} (s : CallStack d) (a : α) :
    s.after (.normal a : Eval.Completion α) = s := rfl

@[simp] lemma after_returned {α : Type} (s : CallStack d) (v : Value) :
    s.after (.abrupt (.returned v) : Eval.Completion α) = s.signal v := rfl

@[simp] lemma after_failed {α : Type} (s : CallStack d) (f : Failure) :
    s.after (.abrupt (.failed f) : Eval.Completion α) = s := rfl

@[simp] lemma after_ofResult {α : Type} (s : CallStack d) (x : Except Failure α) :
    s.after (.ofResult x) = s := by
  cases x <;> rfl

end CallStack

namespace Eval

variable {c : Context} {d : Nat}

@[simp] lemma returned?_ofResult {α : Type} (x : Except Failure α) :
    (Completion.ofResult x).returned? = none := by
  cases x <;> rfl

/-- Only inside of a call does evaluation end with a `return`. -/
lemma Evaluates.depth_pos {α : Type} {p : Phrase α} {w w' : World} {o : Completion α}
    (h : Evaluates c d p w o w') {v : Value} (ho : o.returned? = some v) : 0 < d := by
  induction h with
  | assignExit _ _ ih | binaryExitLeft _ ih | binaryExitRight _ _ _ ih | call _ _ _ ih
  | callExit _ ih | argsExit _ ih | argsExitLater _ _ _ ih | bodyNext _ _ _ ih
  | bodyExit _ ih => exact ih ho
  | ret _ _ | retExit _ _ => exact Nat.succ_pos _
  | binary _ _ _ _ | builtin _ | user _ _ _ _ _ _ => simp at ho
  | _ => cases ho

/-! ## What the machine does with each phrase -/

/-- The arguments of a call, given how their evaluation ends. -/
def Completion.arguments : Completion (List Value) → Except Failure Arguments
  | .normal vs => .ok (.values vs)
  | .abrupt (.returned v) => .ok (.returned v)
  | .abrupt (.failed f) => .error f

/-- Whether a body came to an end, given how its evaluation ends. -/
def Completion.ended : Completion Unit → Except Failure Unit
  | .normal () | .abrupt (.returned _) => .ok ()
  | .abrupt (.failed f) => .error f

/-- The way in which bodies are run one call deeper. -/
def enter (c : Context) (d : Nat) (_ : (d : Int) < c.settings.maxCallDepth) (es : List Expr) :
    Eval (d + 1) Unit :=
  runBody (eval c (d + 1)) es

lemma eval_eq (c : Context) (d : Nat) (e : Expr) : eval c d e = evalWith c (enter c d) e := by
  rw [eval]
  rfl

/-- On machines none of whose calls is returning, the phrase is evaluated to what is said, and
leaves what is said. -/
def Agrees (c : Context) (d : Nat) :
    {α : Type} → Phrase α → World → Completion α → World → Prop
  | _, .expr e, w, o, w' => ∀ s : CallStack d, s.Fresh →
    evalWith c (enter c d) e (w.on s) = (o.value, w'.on (s.after o))
  | _, .args es, w, o, w' => ∀ s : CallStack d, s.Fresh →
    evalArgs c (enter c d) es (w.on s) = (o.arguments, w'.on (s.after o))
  | _, .apply name vs span, w, o, w' => ∀ s : CallStack d, s.Fresh →
    callNamed c (enter c d) name vs span (w.on s) = (o.value, w'.on (s.after o))
  | _, .body es, w, o, w' => ∀ s : CallStack d, s.Fresh →
    runBody (eval c d) es (w.on s) = (o.ended, w'.on (s.after o))

lemma evalLeaf_literal {t : Token} {v : Value} (h : literal? t = some v) (span : Option Span)
    (m : Machine d) : evalLeaf c t span m = (.ok v, m) := by
  unfold literal? at h
  unfold evalLeaf
  split at h <;> simp_all [pure_apply]

lemma evalLeaf_name {t : Token} (h : t.kind = .identifier) (span : Option Span) (m : Machine d) :
    evalLeaf c t span m =
      match m.scope.get? t.payload.display with
      | some v => (.ok v, m)
      | none => (.error (.located (.undefinedVariable t.payload.display) span), m) := by
  unfold evalLeaf
  rw [h]
  simp only [bind_apply, read]
  split <;> simp_all [pure_apply, raise, fail]

lemma evalLeaf_other {t : Token} (h : t.kind ≠ .identifier) (hv : literal? t = none)
    (span : Option Span) (m : Machine d) :
    evalLeaf c t span m =
      if c.settings.permissiveLeaves then
        (.ok .nothing, { m with log := m.log.push (.leafPassedOver t.kind) })
      else (.error (.located
        (.invalidExpression (if t.lexeme.isEmpty then t.kind.name else t.lexeme)) span), m) := by
  unfold literal? at hv
  unfold evalLeaf
  split at hv <;> simp_all
  split <;> rfl

/-- A built-in function does not look at the frames. -/
lemma call_on (r : Registry) (name : String) (vs : List Value) (promised : ValueType) (w : World)
    (s : CallStack d) :
    r.call name vs promised (w.on s) =
      ((answer r name vs promised w).1, (answer r name vs promised w).2.on s) := by
  unfold Registry.call answer
  cases r.find? name with
  | none => rfl
  | some b =>
    cases hb : b.rejection? vs with
    | some cause => simp [hb]
    | none =>
      cases hr : (b.run vs).result with
      | error f => simp [hb, hr, World.on, World.note, World.print]
      | ok v =>
        by_cases ht : v.type = promised
        · simp [hb, hr, ht, World.on, World.note, World.print]
        · simp [hb, hr, ht, World.on, World.note, World.print]

/-! ## Parts of an evaluation -/

section Parts

variable {s : CallStack d} {m : Machine d} {w : World} {x : Exit} {part : Eval d Value}
  {go : Value → Eval d Value}

/-- Behind a part that ended normally, evaluation goes on. -/
lemma bind_unlessReturning_normal (hs : s.Fresh) {v : Value} (h : part m = (.ok v, w.on s)) :
    (part >>= fun v => unlessReturning (go v)) m = go v (w.on s) := by
  simp [h, unlessReturning_apply, CallStack.returned?_of_fresh hs]

/-- Behind a part that exited, there is nothing left to do. -/
lemma bind_unlessReturning_exit (hs : s.Fresh) (hd : ∀ v, x.returned? = some v → 0 < d)
    (h : part m = ((Completion.abrupt x).value, w.on (s.after (.abrupt x : Completion Value)))) :
    (part >>= fun v => unlessReturning (go v)) m =
      ((Completion.abrupt x).value, w.on (s.after (.abrupt x : Completion Value))) := by
  cases x with
  | failed f => simp [h, Completion.value]
  | returned v =>
    have := CallStack.returned?_signal hs (hd v rfl) v
    simp [h, Completion.value, unlessReturning_apply, this]

@[simp] lemma value_ofResult (x : Except Failure Value) : (Completion.ofResult x).value = x := by
  cases x <;> rfl

lemma resolveSignature_eq_ok {ps : List Param} {returnType : String} {span : Option Span}
    {params : List TypedParam} {type : ValueType}
    (h : resolveSignature ps returnType span = .ok (params, type)) :
    ps.mapM Param.resolve = .ok params ∧ resolveType returnType span = .ok type := by
  unfold resolveSignature at h
  cases hps : ps.mapM Param.resolve with
  | error f => rw [hps] at h; cases h
  | ok params' =>
    cases ht : resolveType returnType span with
    | error f => rw [hps, ht] at h; cases h
    | ok type' =>
      rw [hps, ht] at h
      cases h
      exact ⟨rfl, rfl⟩

lemma resolveSignature_eq_error {ps : List Param} {returnType : String} {span : Option Span}
    {f : Failure} (h : resolveSignature ps returnType span = .error f) :
    ps.mapM Param.resolve = .error f ∨
      ∃ params, ps.mapM Param.resolve = .ok params ∧ resolveType returnType span = .error f := by
  unfold resolveSignature at h
  cases hps : ps.mapM Param.resolve with
  | error f' => rw [hps] at h; cases h; exact .inl rfl
  | ok params =>
    cases ht : resolveType returnType span with
    | error f' => rw [hps, ht] at h; cases h; exact .inr ⟨params, rfl, rfl⟩
    | ok type => rw [hps, ht] at h; cases h

lemma signalReturn_apply (v : Value) (m : Machine d) :
    signalReturn v m =
      (.ok ((m.stack.signal v).returned?.getD v), { m with stack := m.stack.signal v }) := rfl

/-- A call gives what its body returned, if it did, and keeps what its body printed and noted. -/
lemma insideCall_on (function : String) {scope : Scope} {w' : World} {log : Array Note}
    {body : Eval (d + 1) Unit} {o : Completion Unit}
    (h : body ((World.mk scope w.output log).on (.push { function } s)) =
      (o.ended, w'.on ((CallStack.push { function } s).after o))) :
    insideCall function scope body ((World.mk w.scope w.output log).on s) =
      (o.callValue, (World.mk w.scope w'.output w'.log).on s) := by
  simp only [World.on] at h
  rcases o with _ | v | f <;>
    simp [insideCall, World.on, h, Completion.ended, Completion.callValue, CallStack.top,
      CallStack.pop, CallStack.signal, Frame.returnValue, Frame.signal, Frame.shouldReturn]

end Parts

/-- What the rules say of a phrase is what the machine does. -/
theorem Evaluates.agrees {α : Type} {p : Phrase α} {w w' : World} {o : Completion α}
    (h : Evaluates c d p w o w') : Agrees c d p w o w' := by
  induction h with
  | literal h =>
    intro s _
    simp [evalWith, evalLeaf_literal h, Completion.value]
  | bound h hv =>
    intro s _
    simp [evalWith, evalLeaf_name h, hv, Completion.value]
  | unbound h hv =>
    intro s _
    simp [evalWith, evalLeaf_name h, hv, Completion.value]
  | passedOver h hv permitted =>
    intro s _
    simp [evalWith, evalLeaf_other h hv, permitted, Completion.value, World.on, World.note]
  | rejected h hv permitted =>
    intro s _
    simp [evalWith, evalLeaf_other h hv, permitted, Completion.value]
  | assignNothing h =>
    intro s _
    simp [evalWith, h, Completion.value]
  | assign h _ ih =>
    intro s hs
    simp only [evalWith, h]
    rw [bind_unlessReturning_normal hs (ih s hs)]
    simp [Completion.value, World.on, World.bind]
  | assignExit h hv ih =>
    intro s hs
    simp only [evalWith, h]
    exact bind_unlessReturning_exit hs (fun v => hv.depth_pos) (ih s hs)
  | binary _ _ ihl ihr =>
    intro s hs
    simp only [evalWith]
    rw [bind_unlessReturning_normal hs (ihl s hs), bind_unlessReturning_normal hs (ihr s hs)]
    simp
  | binaryExitLeft hl ih =>
    intro s hs
    simp only [evalWith]
    exact bind_unlessReturning_exit hs (fun v => hl.depth_pos) (ih s hs)
  | binaryExitRight _ hr ihl ihr =>
    intro s hs
    simp only [evalWith]
    rw [bind_unlessReturning_normal hs (ihl s hs)]
    exact bind_unlessReturning_exit hs (fun v => hr.depth_pos) (ihr s hs)
  | call _ _ ihes iho =>
    intro s hs
    simp only [evalWith, bind_apply, ihes s hs]
    exact iho s hs
  | @callExit _ _ _ _ _ _ x hes ih =>
    intro s hs
    simp only [evalWith, bind_apply, ih s hs]
    cases x <;> simp [Completion.arguments, Completion.value]
  | define h =>
    intro s _
    obtain ⟨hps, ht⟩ := resolveSignature_eq_ok h
    simp [evalWith, defineFunction, hps, ht, Completion.value, World.on, World.bind, World.note]
  | defineExit h =>
    intro s _
    rcases resolveSignature_eq_error h with hps | ⟨params, hps, ht⟩
    · simp [evalWith, defineFunction, hps, Completion.value]
    · simp [evalWith, defineFunction, hps, ht, Completion.value]
  | retOutside =>
    intro s _
    simp [evalWith, Completion.value]
  | @ret d _ _ _ _ v _ ih =>
    intro s hs
    have := CallStack.returned?_signal hs (Nat.succ_pos d) v
    simp only [evalWith, Nat.add_one_ne_zero, if_false, bind_apply, ih s hs]
    simp [signalReturn_apply, Completion.value, this, World.on]
  | @retExit d _ _ _ _ x h ih =>
    intro s hs
    simp only [evalWith, Nat.add_one_ne_zero, if_false, bind_apply, ih s hs]
    cases x with
    | failed f => simp [Completion.value]
    | returned v =>
      -- the operand has returned already, and what it left in the frame stays
      have := CallStack.returned?_signal hs (Nat.succ_pos d) v
      simp [signalReturn_apply, Completion.value, CallStack.signal_signal hs, this, World.on]
  | hole =>
    intro s _
    simp [evalWith, Completion.value]
  | argsEnd =>
    intro s _
    simp [evalArgs, Completion.arguments]
  | argsNext _ _ ih ihs =>
    intro s hs
    have := ihs s hs
    simp [evalArgs, ih s hs, CallStack.returned?_of_fresh hs, this, Completion.arguments,
      Completion.value]
  | @argsExit _ _ _ _ _ x he ih =>
    intro s hs
    simp only [evalArgs, bind_apply, ih s hs]
    cases x with
    | failed f => simp [Completion.arguments, Completion.value]
    | returned v =>
      have := CallStack.returned?_signal hs (he.depth_pos rfl) v
      simp [Completion.arguments, Completion.value, this]
  | @argsExitLater _ _ _ _ _ _ _ x _ _ ih ihs =>
    intro s hs
    have := ihs s hs
    cases x <;> simp [evalArgs, ih s hs, CallStack.returned?_of_fresh hs, this,
      Completion.arguments, Completion.value]
  | undefined h =>
    intro s _
    simp [callNamed, h, Completion.value]
  | @notCallable _ _ _ _ _ v h hv =>
    intro s _
    cases v with
    | fn f => exact absurd rfl (hv f)
    | _ => simp [callNamed, h, Completion.value]
  | builtin h =>
    intro s _
    simp [callNamed, h, call_on]
  | tooDeep h depth =>
    intro s _
    simp [callNamed, h, callUser, Int.not_lt.2 depth, Completion.value]
  | wrongArity h depth arity =>
    intro s _
    simp [callNamed, h, callUser, depth, arity, Completion.value]
  | unbindable h depth arity hs =>
    intro s _
    unfold callScope at hs
    simp [callNamed, h, callUser, depth, arity, hs, Completion.value]
  | @user _ w _ _ _ _ f scope o h depth arity hs _ ih =>
    intro s hf
    -- the frame of the call is fresh, and so are those below it
    have hbody := insideCall_on (w := w) f.name (ih _ (CallStack.fresh_push hf f.name))
    unfold callScope at hs
    simp only [World.on] at hbody
    simp [callNamed, World.on, h, callUser, depth, arity, hs, enter, hbody]
    cases o.callValue <;> simp [Except.bind]
  | bodyEnd =>
    intro s _
    simp [runBody, Completion.ended]
  | bodyNext _ _ ih ihs =>
    intro s hs
    simpa [runBody, eval_eq, ih s hs, CallStack.returned?_of_fresh hs, Completion.value]
      using ihs s hs
  | @bodyExit _ _ _ _ _ x he ih =>
    intro s hs
    simp only [runBody, bind_apply, eval_eq, ih s hs]
    cases x with
    | failed f => simp [Completion.ended, Completion.value]
    | returned v =>
      have := CallStack.returned?_signal hs (he.depth_pos rfl) v
      simp [Completion.ended, Completion.value, this]

/-! ## Every phrase comes to an end by the rules -/

/-- The phrase ends in some way, whatever world it is evaluated in. -/
def Ends (c : Context) (d : Nat) {α : Type} (p : Phrase α) : Prop :=
  ∀ w, ∃ o w', Evaluates c d p w o w'

lemma ends_leaf (t : Token) (span : Option Span) : Ends c d (.expr (.leaf t span)) := by
  intro w
  by_cases name : t.kind = .identifier
  · cases hv : w.scope.get? t.payload.display with
    | none => exact ⟨_, _, .unbound name hv⟩
    | some v => exact ⟨_, _, .bound name hv⟩
  · cases hv : literal? t with
    | some v => exact ⟨_, _, .literal hv⟩
    | none =>
      cases permitted : c.settings.permissiveLeaves with
      | true => exact ⟨_, _, .passedOver name hv permitted⟩
      | false => exact ⟨_, _, .rejected name hv permitted⟩

lemma ends_args {es : List Expr} (h : ∀ e ∈ es, Ends c d (.expr e)) : Ends c d (.args es) := by
  induction es with
  | nil => exact fun w => ⟨_, _, .argsEnd⟩
  | cons e es ih =>
    intro w
    obtain ⟨o | x, w₁, he⟩ := h e (by simp) w
    · obtain ⟨vs | x, w', hes⟩ := ih (fun e' he' => h e' (by simp [he'])) w₁
      · exact ⟨_, _, .argsNext he hes⟩
      · exact ⟨_, _, .argsExitLater he hes⟩
    · exact ⟨_, _, .argsExit he⟩

lemma ends_body {es : List Expr} (h : ∀ e, Ends c d (.expr e)) : Ends c d (.body es) := by
  induction es with
  | nil => exact fun w => ⟨_, _, .bodyEnd⟩
  | cons e es ih =>
    intro w
    obtain ⟨v | x, w₁, he⟩ := h e w
    · obtain ⟨o, w', hes⟩ := ih w₁
      exact ⟨_, _, .bodyNext he hes⟩
    · exact ⟨_, _, .bodyExit he⟩

lemma ends_apply (h : (d : Int) < c.settings.maxCallDepth → ∀ es, Ends c (d + 1) (.body es))
    (name : String) (vs : List Value) (span : Option Span) :
    Ends c d (.apply name vs span) := by
  intro w
  cases hg : w.scope.get? name with
  | none => exact ⟨_, _, .undefined hg⟩
  | some v =>
    rcases v with _ | _ | _ | (⟨b, promised⟩ | f) | _
    case fn.builtin => exact ⟨_, _, .builtin hg⟩
    case fn.user =>
      by_cases depth : (d : Int) < c.settings.maxCallDepth
      · by_cases arity : vs.length = f.params.length
        · cases hs : callScope c f vs span w.scope with
          | error e => exact ⟨_, _, .unbindable hg depth arity hs⟩
          | ok scope =>
            obtain ⟨o, w', ho⟩ := h depth f.body (entered d f w scope)
            exact ⟨_, _, .user hg depth arity hs ho⟩
        · exact ⟨_, _, .wrongArity hg depth arity⟩
      · exact ⟨_, _, .tooDeep hg (Int.not_lt.1 depth)⟩
    all_goals exact ⟨_, _, .notCallable hg (by simp)⟩

lemma ends_expr (h : (d : Int) < c.settings.maxCallDepth → ∀ es, Ends c (d + 1) (.body es))
    (e : Expr) : Ends c d (.expr e) := by
  induction e using Expr.induction with
  | leaf t span => exact ends_leaf t span
  | assign target value span _ ih =>
    intro w
    cases ht : target.identifier? with
    | none => exact ⟨_, _, .assignNothing ht⟩
    | some t =>
      obtain ⟨v | x, w', hv⟩ := ih w
      · exact ⟨_, _, .assign ht hv⟩
      · exact ⟨_, _, .assignExit ht hv⟩
  | binary op left right span ihl ihr =>
    intro w
    obtain ⟨l | x, w₁, hl⟩ := ihl w
    · obtain ⟨r | x, w', hr⟩ := ihr w₁
      · exact ⟨_, _, .binary hl hr⟩
      · exact ⟨_, _, .binaryExitRight hl hr⟩
    · exact ⟨_, _, .binaryExitLeft hl⟩
  | call name es span ih =>
    intro w
    obtain ⟨vs | x, w₁, hes⟩ := ends_args ih w
    · obtain ⟨o, w', ho⟩ := ends_apply h name vs span w₁
      exact ⟨_, _, .call hes ho⟩
    · exact ⟨_, _, .callExit hes⟩
  | define name ps body returnType span _ =>
    intro w
    cases hs : resolveSignature ps returnType span with
    | error f => exact ⟨_, _, .defineExit hs⟩
    | ok signature => exact ⟨_, _, .define hs⟩
  | ret inner span ih =>
    intro w
    cases d with
    | zero => exact ⟨_, _, .retOutside⟩
    | succ d =>
      obtain ⟨v | x, w', hv⟩ := ih w
      · exact ⟨_, _, .ret hv⟩
      · exact ⟨_, _, .retExit hv⟩
  | hole => exact fun w => ⟨_, _, .hole⟩

/-- Every expression ends by the rules: bodies are entered only as long as the limit allows one
more call. -/
lemma ends (c : Context) (d : Nat) (e : Expr) : Ends c d (.expr e) := by
  -- a body is one call deeper, where there is less room for calls
  induction room : c.settings.maxCallDepth.toNat - d generalizing d e with
  | zero => exact ends_expr (fun depth => by omega) e
  | succ room ih => exact ends_expr (fun depth es => ends_body fun e => ih (d + 1) e (by omega)) e

/-! ## The agreement -/

/-- A value and the frames that evaluation leaves tell how it ended: only a `return` has left a
value in a frame. -/
lemma completion_eq {s : CallStack d} (hs : s.Fresh) {o₁ o₂ : Completion Value}
    (h₁ : ∀ v, o₁.returned? = some v → 0 < d) (h₂ : ∀ v, o₂.returned? = some v → 0 < d)
    (value : o₁.value = o₂.value) (after : s.after o₁ = s.after o₂) : o₁ = o₂ := by
  have fresh := CallStack.returned?_of_fresh hs
  -- a frame with a value in it is not fresh
  have left : ∀ v, 0 < d → s ≠ s.signal v := by
    intro v hd he
    rw [he, CallStack.returned?_signal hs hd] at fresh
    cases fresh
  rcases o₁ with v₁ | v₁ | f₁ <;> rcases o₂ with v₂ | v₂ | f₂ <;>
    simp only [Completion.value, Except.ok.injEq, reduceCtorEq, Except.error.injEq] at value <;>
    subst value
  · rfl
  · exact absurd after (left v₁ (h₂ v₁ rfl))
  · exact absurd after.symm (left v₁ (h₁ v₁ rfl))
  · rfl
  · rfl

/-- The rules leave no choice. -/
lemma Evaluates.unique {e : Expr} {w w₁ w₂ : World} {o₁ o₂ : Completion Value} {s : CallStack d}
    (hs : s.Fresh) (h₁ : Evaluates c d (.expr e) w o₁ w₁) (h₂ : Evaluates c d (.expr e) w o₂ w₂) :
    o₁ = o₂ ∧ w₁ = w₂ := by
  -- both say what the one machine does
  have same := (h₁.agrees s hs).symm.trans (h₂.agrees s hs)
  simp only [Prod.mk.injEq, World.on, Machine.mk.injEq] at same
  obtain ⟨value, scope, after, output, log⟩ := same
  refine ⟨completion_eq hs (fun v => h₁.depth_pos) (fun v => h₂.depth_pos) value after, ?_⟩
  obtain ⟨_, _, _⟩ := w₁
  obtain ⟨_, _, _⟩ := w₂
  simp_all

/-- The machine comes to what the rules say. -/
lemma Evaluates.eval {e : Expr} {m : Machine d} {o : Completion Value} {w' : World}
    (h : Evaluates c d (.expr e) m.world o w') (fresh : m.stack.Fresh) :
    eval c d e m = (o.value, w'.on (m.stack.after o)) := by
  rw [eval_eq]
  exact h.agrees m.stack fresh

/-- Each expression ends by the rules, and the machine comes to what they say. -/
lemma exists_evaluates (c : Context) {d : Nat} (e : Expr) (m : Machine d) (fresh : m.stack.Fresh) :
    ∃ o w', Evaluates c d (.expr e) m.world o w' ∧
      eval c d e m = (o.value, w'.on (m.stack.after o)) := by
  obtain ⟨o, w', h⟩ := ends c d e m.world
  exact ⟨o, w', h, h.eval fresh⟩

/-- **Looking for a return is as good as exiting.** From a machine none of whose calls is
returning, the rules give an expression exactly one ending and exactly one world, and the machine
comes to them: it gives the value of that ending, or its failure, and leaves that world, with the
frames as they were but for the innermost one, which holds the value of a `return` if that is how
evaluation ended. -/
theorem eval_follows_rules (c : Context) {d : Nat} (e : Expr) (m : Machine d)
    (fresh : m.stack.Fresh) :
    ∃ o w', (∀ o₁ w₁, Evaluates c d (.expr e) m.world o₁ w₁ ↔ o₁ = o ∧ w₁ = w') ∧
      eval c d e m = (o.value, w'.on (m.stack.after o)) := by
  obtain ⟨o, w', h⟩ := ends c d e m.world
  refine ⟨o, w', fun o₁ w₁ => ⟨fun h₁ => h₁.unique fresh h, ?_⟩, ?_⟩
  · rintro ⟨rfl, rfl⟩
    exact h
  · rw [eval_eq]
    exact h.agrees m.stack fresh

/-- Inside of a call, `print(return 1, g())` gives 1 and neither prints nor calls `g`. -/
theorem eval_return_before_call :
    let m : Machine 1 := (World.mk {} "" #[]).on (.push { function := "f" } .empty)
    let one : Expr := .leaf (.ofInt 1) none
    let e : Expr := .call "print" [.ret one none, .call "g" [] none] none
    m.stack.Fresh ∧
      eval ⟨{}, {}⟩ 1 e m = (.ok (.int 1), m.world.on (m.stack.signal (.int 1))) := by
  intro m one e
  have fresh : m.stack.Fresh := CallStack.fresh_push (by simp [CallStack.Fresh, CallStack.toList]) _
  obtain ⟨o, w', rules, heval⟩ := eval_follows_rules ⟨{}, {}⟩ e m fresh
  obtain ⟨rfl, rfl⟩ := (rules (.abrupt (.returned (.int 1))) m.world).1
    (.callExit (.argsExit (.ret (.literal rfl))))
  exact ⟨fresh, heval⟩

end Eval

end Scriptlet
