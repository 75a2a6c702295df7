import Scriptlet.Proofs.Evaluation.Frames
import Scriptlet.Proofs.Safety.Run

/-!
# No handle dangles

A handle to a built-in function is a value like any other: it is copied into the scopes of calls,
bound anew, handed over and returned, and it outlives failures and further registrations.  But it
comes from a registry that has the function, and registries lose no function.  So no step of an
evaluation makes a handle dangle (`Process.knowsAll_step`), and none calls one that does
(`Process.Calls.knows`).  A process is at the failure of calling such a handle only if a function
that is registered failed with it when it was called (`Process.failure_step`).
-/

namespace Scriptlet

open Eval (Context Domain answer callScope resolveSignature literal?)

/-- A handle was called that no function is registered for. -/
def Failure.isUnknownBuiltin : Failure → Bool
  | .language ⟨.unknownBuiltin _, _⟩ => true
  | _ => false

lemma isUnknownBuiltin_located {cause : Cause} (h : cause.code ≠ "E410") (span : Option Span) :
    (Failure.located cause span).isUnknownBuiltin = false := by
  cases cause with
  | unknownBuiltin name => exact absurd rfl h
  | _ => rfl

namespace Registry

/-! ## What a registry knows -/

/-- The function is one of a program, or there is a function registered for the handle. -/
def Has (r : Registry) : Function → Prop
  | .builtin name _ => (r.find? name).isSome = true
  | .user _ => True

/-- The value is no handle that dangles. -/
def Knows (r : Registry) (v : Value) : Prop := ∀ f, v = .fn f → r.Has f

/-- No handle that is bound in the scope dangles. -/
def KnowsScope (r : Registry) (s : Scope) : Prop := ∀ name v, s.get? name = some v → r.Knows v

/-- The result is no handle that dangles, and the failure of calling one only if `F` accounts for
that. -/
def KnowsResult (r : Registry) (F : Failure → Prop) : Except Failure Value → Prop
  | .ok v => r.Knows v
  | .error f => f.isUnknownBuiltin = true → F f

/-- If the function gives anything, then one of its arguments or a value that is known.  It may fail
in any way. -/
def Trusts (r : Registry) (b : Builtin) : Prop :=
  ∀ vs v, b.rejection? vs = none → (b.run vs).result = .ok v → v ∈ vs ∨ r.Knows v

/-- All functions that are registered are such. -/
def Closed (r : Registry) : Prop := ∀ name b, r.find? name = some b → r.Trusts b

/-- A function of this name is registered and accepts the arguments, and it fails so by itself. -/
def FailsItself (r : Registry) (name : String) (vs : List Value) (f : Failure) : Prop :=
  ∃ b, r.find? name = some b ∧ b.rejection? vs = none ∧ (b.run vs).result = .error f

section

variable {r : Registry} {F : Failure → Prop} {v : Value} {s : Scope}

lemma knows_of_ne (h : ∀ f, v ≠ .fn f) : r.Knows v := fun f hf => absurd hf (h f)

lemma Has.register {f : Function} (h : r.Has f) (b : Builtin) : (r.register b).Has f := by
  cases f with
  | user f => trivial
  | builtin name type =>
    rw [Has, find?_register]
    split
    · rfl
    · exact h

lemma Knows.register (h : r.Knows v) (b : Builtin) : (r.register b).Knows v :=
  fun f hf => (h f hf).register b

lemma KnowsScope.register (h : r.KnowsScope s) (b : Builtin) : (r.register b).KnowsScope s :=
  fun name v hv => (h name v hv).register b

lemma closed_standard : standard.Closed := by
  intro name b hb vs v _ hv
  -- none of the functions gives a function
  have hall : ∀ b ∈ standard.builtins, ValueType.fn ≠ b.returnType := by decide
  refine .inr (knows_of_ne fun f hf => ?_)
  subst hf
  exact hall b (mem_of_find? hb) (type_standard hb hv)

lemma Closed.register {b : Builtin} (h : r.Closed) (hb : (r.register b).Trusts b) :
    (r.register b).Closed := by
  intro name b' hb'
  rw [find?_register] at hb'
  split at hb'
  · cases hb'
    exact hb
  · exact fun vs v ha hv => (h name b' hb' vs v ha hv).imp_right (·.register b)

/-- What no handle dangles in, where none is called. -/
def handles (r : Registry) (settings : Settings) : Domain ⟨settings, {}⟩ where
  node _ := True
  function := r.Has
  define _ _ := trivial
  body _ _ _ := trivial
  reply h := nomatch h

lemma KnowsScope.set (hs : r.KnowsScope s) (hv : r.Knows v) (name : String) :
    r.KnowsScope (s.set name v) :=
  Domain.HasScope.set (D := r.handles {}) hs hv name

/-- Populating a scope binds handles to registered functions. -/
lemma KnowsScope.populate (hs : r.KnowsScope s) : r.KnowsScope (r.populate s) := by
  refine Domain.HasScope.populate (D := r.handles {}) hs fun b hb => ?_
  refine List.find?_isSome.2 ⟨b, hb, ?_⟩
  exact decide_eq_true rfl

lemma KnowsScope.callScope {settings : Settings} {f : UserFunction} {vs : List Value}
    {span : Option Span} {s' : Scope} (hvs : ∀ v ∈ vs, r.Knows v) (hs : r.KnowsScope s)
    (h : callScope ⟨settings, r⟩ f vs span s = .ok s') : r.KnowsScope s' :=
  Domain.HasScope.callScope (D := r.handles settings) hvs hs h

/-! ## Results -/

lemma knowsResult_error {f : Failure} (h : f.isUnknownBuiltin = false) :
    r.KnowsResult F (.error f) :=
  fun hunknown => absurd (h.symm.trans hunknown) Bool.false_ne_true

lemma knowsResult_literal {t : Token} (h : literal? t = some v) : r.KnowsResult F (.ok v) :=
  Domain.hasValue_literal (D := r.handles {}) h

lemma knowsResult_apply (op : Operator) (x y : Value) (span : Option Span) :
    r.KnowsResult F ((op.apply x y).mapError fun cause => .located cause span) := by
  cases h : op.apply x y with
  | ok v => exact knows_of_ne (Operator.apply_ne_fn h)
  | error cause =>
    have hcode : cause.code ≠ "E410" := by
      rcases Operator.code_of_apply h with hcode | hcode <;> rw [hcode] <;> decide
    exact knowsResult_error (isUnknownBuiltin_located hcode span)

lemma knowsResult_checkResult {settings : Settings} {f : UserFunction} {span : Option Span}
    (hv : r.Knows v) : r.KnowsResult F (checkResult settings f span v) := by
  unfold checkResult
  split
  · exact hv
  · exact knowsResult_error rfl

lemma isUnknownBuiltin_resolveType {typeText : String} {span : Option Span} {e : Failure}
    (h : resolveType typeText span = .error e) : e.isUnknownBuiltin = false := by
  unfold resolveType at h
  split at h <;> cases h
  rfl

lemma isUnknownBuiltin_resolve {p : Param} {e : Failure} (h : p.resolve = .error e) :
    e.isUnknownBuiltin = false := by
  unfold Param.resolve at h
  cases htype : resolveType p.typeToken.payload.display p.span with
  | error f =>
    rw [htype] at h
    cases h
    exact isUnknownBuiltin_resolveType htype
  | ok type =>
    rw [htype] at h
    cases h

lemma isUnknownBuiltin_resolves {ps : List Param} {e : Failure}
    (h : ps.mapM Param.resolve = .error e) : e.isUnknownBuiltin = false := by
  induction ps with
  | nil => cases h
  | cons p ps ih =>
    rw [List.mapM_cons] at h
    cases hp : p.resolve with
    | error f =>
      rw [hp] at h
      cases h
      exact isUnknownBuiltin_resolve hp
    | ok q =>
      cases hps : ps.mapM Param.resolve with
      | error f =>
        rw [hp, hps] at h
        cases h
        exact ih hps
      | ok qs =>
        rw [hp, hps] at h
        cases h

lemma isUnknownBuiltin_resolveSignature {ps : List Param} {returnType : String}
    {span : Option Span} {e : Failure} (h : resolveSignature ps returnType span = .error e) :
    e.isUnknownBuiltin = false := by
  obtain hps | ⟨params, -, htype⟩ := Eval.resolveSignature_eq_error h
  · exact isUnknownBuiltin_resolves hps
  · exact isUnknownBuiltin_resolveType htype

lemma isUnknownBuiltin_bindArguments {settings : Settings} {function : String} {vs : List Value}
    {span : Option Span} {ps : List TypedParam} {e : Failure}
    (h : bindArguments settings function vs span ps s = .error e) :
    e.isUnknownBuiltin = false := by
  induction ps generalizing s with
  | nil => cases h
  | cons p ps ih =>
    rw [bindArguments] at h
    split at h
    · cases h
      rfl
    · split at h
      · exact ih h
      · cases h
        rfl

lemma isUnknownBuiltin_depthFailure (limit : Int) (span : Option Span) :
    (depthFailure limit span).isUnknownBuiltin = false := by
  unfold depthFailure
  split <;> rfl

/-- A call of a handle that does not dangle gives no handle that does, if the functions do not. -/
lemma knowsResult_answer {name : String} {vs : List Value} (promised : ValueType) (w : World)
    (closed : r.Closed) (hname : (r.find? name).isSome = true) (hvs : ∀ v ∈ vs, r.Knows v)
    (hF : ∀ f, r.FailsItself name vs f → F f) :
    r.KnowsResult F (answer r name vs promised w).1 := by
  unfold answer
  split
  · rename_i hnone
    rw [hnone] at hname
    cases hname
  · rename_i b hb
    split
    · rename_i cause hcause
      have hcode : cause.code ≠ "E410" := by
        rcases Builtin.code_of_rejection? hcause with hcode | hcode <;> rw [hcode] <;> decide
      exact knowsResult_error (isUnknownBuiltin_located hcode none)
    · rename_i ha
      split
      · rename_i f hf
        exact fun _ => hF f ⟨b, hb, ha, hf⟩
      · rename_i v hv
        split
        · exact (closed name b hb vs v ha hv).elim (hvs v) id
        · exact knowsResult_error rfl

end

end Registry

/-! ## What a process holds -/

/-- The values among what waits. -/
def Pending.values : Pending → List Value
  | operate _ left _ => [left]
  | argument _ vs _ _ => vs
  | _ => []

namespace Registry

/-- No handle that the process holds dangles: none that is bound in a scope, none in a frame, and
none that waits to be an operand or an argument. -/
structure KnowsHeld (r : Registry) (p : Process) : Prop where
  /-- Scopes. -/
  scopes : ∀ s ∈ p.memory.scopes, r.KnowsScope s
  /-- Frames. -/
  frames : ∀ f ∈ p.memory.frames, ∀ v, f.result = some v → r.Knows v
  /-- Operands and arguments. -/
  pending : ∀ w ∈ p.pending, ∀ v ∈ w.values, r.Knows v

/-- Nor does the value that the process is at. -/
structure KnowsAll (r : Registry) (p : Process) : Prop extends KnowsHeld r p where
  /-- The value, if there is one. -/
  focus : ∀ v, p.focus = .result (.ok v) → r.Knows v

/-- No handle dangles that the process holds or is at, and if it is at the failure of calling one,
then `F` accounts for that. -/
structure KnowsBut (r : Registry) (F : Failure → Prop) (p : Process) : Prop
    extends KnowsHeld r p where
  /-- The process is at such a result, or at an expression. -/
  focus : ∀ x, p.focus = .result x → r.KnowsResult F x

section

variable {r : Registry} {F : Failure → Prop} {p : Process}

lemma KnowsBut.knowsAll (h : r.KnowsBut F p) : r.KnowsAll p :=
  ⟨h.toKnowsHeld, fun v hv => h.focus (.ok v) hv⟩

lemma KnowsAll.knowsBut (h : r.KnowsAll p) (hF : ∀ f, p.focus = .result (.error f) → F f) :
    r.KnowsBut F p := by
  refine ⟨h.toKnowsHeld, fun x hx => ?_⟩
  cases x with
  | ok v => exact h.focus v hx
  | error f => exact fun _ => hF f hx

end

end Registry

namespace Process

open Registry

/-! ## Calls of built-in functions -/

section

variable (p : Process)

/-- The next step calls what the name is bound to, with these arguments. -/
inductive Applies (called : String) : List Value → Prop
  /-- There are no arguments. -/
  | plain {span : Option Span} (focus : p.focus = .expr (.call called [] span)) : Applies called []
  /-- The last argument has its value. -/
  | behind {v : Value} {vs : List Value} {span : Option Span} {ws : List Pending}
      (focus : p.focus = .result (.ok v)) (pending : p.pending = .argument called vs [] span :: ws)
      (going : Frame.returned? p.memory.frames = none) : Applies called (vs ++ [v])

/-- The next step calls a handle to the function of this name, with these arguments. -/
def Calls (name : String) (vs : List Value) : Prop :=
  ∃ called promised, p.Applies called vs ∧
    p.here.get? called = some (.fn (.builtin name promised))

/-- The next step calls a function that is registered and fails so by itself. -/
def FailsInCall (r : Registry) (f : Failure) : Prop :=
  ∃ name vs, p.Calls name vs ∧ r.FailsItself name vs f

/-- `F` accounts for how a function fails by itself, if what is called here is a handle to it. -/
def Accounted (r : Registry) (F : Failure → Prop) (called : String) (vs : List Value) : Prop :=
  ∀ name promised f, p.here.get? called = some (.fn (.builtin name promised)) →
    r.FailsItself name vs f → F f

end

/-! ## What a step does -/

section

variable {r : Registry} {F : Failure → Prop} {p : Process}

lemma knowsScope_here (h : r.KnowsHeld p) : r.KnowsScope p.here := by
  unfold here
  rw [List.getD_eq_getElem?_getD]
  cases hs : p.memory.scopes[p.scope]? with
  | none => exact nofun
  | some s => exact h.scopes s (List.mem_of_getElem? hs)

lemma knows_returned {fs : List Frame} (h : ∀ f ∈ fs, ∀ v, f.result = some v → r.Knows v)
    {v : Value} (hv : Frame.returned? fs = some v) : r.Knows v := by
  cases fs with
  | nil => cases hv
  | cons f fs => exact h f List.mem_cons_self v hv

lemma knowsHeld_resumed {w : Pending} {ws : List Pending} (h : r.KnowsHeld p)
    (hp : p.pending = w :: ws) : r.KnowsHeld { p with pending := ws } :=
  ⟨h.scopes, h.frames, fun w' hw => h.pending w' (hp ▸ List.mem_cons_of_mem w hw)⟩

lemma knowsHeld_note (h : r.KnowsHeld p) (n : Note) : r.KnowsHeld (p.note n) :=
  ⟨h.scopes, h.frames, h.pending⟩

lemma mem_modify {α : Type} {f : α → α} {as : List α} {a : Nat} {x : α} (h : x ∈ as.modify a f) :
    ∃ y ∈ as, x = y ∨ x = f y := by
  obtain ⟨i, hi⟩ := List.mem_iff_getElem?.1 h
  rw [List.getElem?_modify] at hi
  cases hy : as[i]? with
  | none =>
    rw [hy] at hi
    cases hi
  | some y =>
    refine ⟨y, List.mem_of_getElem? hy, ?_⟩
    rw [hy] at hi
    by_cases ha : a = i
    · exact .inr (by simpa [ha] using hi.symm)
    · exact .inl (by simpa [ha] using hi.symm)

lemma knowsHeld_bind (h : r.KnowsHeld p) {v : Value} (hv : r.Knows v) (name : String) :
    r.KnowsHeld (p.bind name v) := by
  refine ⟨fun s hs => ?_, h.frames, h.pending⟩
  obtain ⟨s', hs', rfl | rfl⟩ := mem_modify hs
  · exact h.scopes s hs'
  · exact (h.scopes s' hs').set hv name

lemma knowsBut_give (h : r.KnowsHeld p) {x : Except Failure Value} (hx : r.KnowsResult F x) :
    r.KnowsBut F (p.give x) := by
  refine ⟨⟨h.scopes, h.frames, h.pending⟩, fun y hy => ?_⟩
  cases hy
  exact hx

lemma knowsBut_evaluate (h : r.KnowsHeld p) (e : Expr) {w : Pending}
    (hw : ∀ v ∈ w.values, r.Knows v) : r.KnowsBut F (p.evaluate e w) :=
  ⟨⟨h.scopes, h.frames, List.forall_mem_cons.2 ⟨hw, h.pending⟩⟩, fun _ hx => nomatch hx⟩

lemma knowsBut_fail (h : r.KnowsHeld p) {f : Failure} (hf : f.isUnknownBuiltin = false) :
    r.KnowsBut F (p.give (.error f)) :=
  knowsBut_give h (knowsResult_error hf)

lemma knowsBut_unlessReturning {go : Process} (h : r.KnowsHeld p)
    (hgo : Frame.returned? p.memory.frames = none → r.KnowsBut F go) :
    r.KnowsBut F (p.unlessReturning go) := by
  unfold Process.unlessReturning
  split
  · rename_i v hv
    exact knowsBut_give h (x := .ok v) (knows_returned h.frames hv)
  · rename_i hgoing
    exact hgo hgoing

variable {settings : Settings}

lemma knowsBut_leaf (h : r.KnowsHeld p) (t : Token) (span : Option Span) :
    r.KnowsBut F (p.leaf ⟨settings, r⟩ t span) := by
  unfold Process.leaf
  split
  · rename_i v hv
    exact knowsBut_give h (knowsResult_literal hv)
  · split
    · split
      · rename_i v hv
        exact knowsBut_give h (x := .ok v) (knowsScope_here h _ v hv)
      · exact knowsBut_fail h rfl
    · split
      · exact knowsBut_give (knowsHeld_note h _) (x := .ok .nothing) (knows_of_ne nofun)
      · exact knowsBut_fail h rfl

lemma knowsBut_define (h : r.KnowsHeld p) (name : String) (ps : List Param) (es : List Expr)
    (returnType : String) (span : Option Span) :
    r.KnowsBut F (p.define name ps es returnType span) := by
  unfold Process.define
  split
  · rename_i f hf
    exact knowsBut_fail h (isUnknownBuiltin_resolveSignature hf)
  · rename_i params type _
    have hfunction : r.Knows (.fn (.user ⟨name, params, es, type⟩)) := by
      intro f hf
      cases hf
      trivial
    exact knowsBut_give (knowsHeld_note (knowsHeld_bind h hfunction name) _) (x := .ok .nothing)
      (knows_of_ne nofun)

/-- The call of a function holds the arguments in a scope of its own. -/
lemma knowsBut_enter (h : r.KnowsHeld p) (f : UserFunction) {s : Scope} (hs : r.KnowsScope s)
    (span : Option Span) : r.KnowsBut F (p.enter f s span) := by
  refine ⟨⟨?_, ?_, ?_⟩, ?_⟩
  · exact List.forall_mem_append.2 ⟨h.scopes, List.forall_mem_singleton.2 hs⟩
  · exact List.forall_mem_cons.2 ⟨nofun, h.frames⟩
  · exact List.forall_mem_cons.2 ⟨nofun, h.pending⟩
  · intro x hx
    cases hx
    exact knows_of_ne nofun

lemma knowsBut_leave (h : r.KnowsHeld p) (caller : Nat) {x : Except Failure Value}
    (hx : r.KnowsResult F x) : r.KnowsBut F (p.leave caller x) := by
  refine ⟨⟨h.scopes, fun f hf => h.frames f (List.mem_of_mem_tail hf), h.pending⟩, ?_⟩
  intro y hy
  cases hy
  exact hx

/-- Calling what a name is bound to is safe, since a handle that is bound does not dangle. -/
lemma knowsBut_apply (h : r.KnowsHeld p) (closed : r.Closed) (called : String) {vs : List Value}
    (hvs : ∀ v ∈ vs, r.Knows v) (hF : p.Accounted r F called vs) (span : Option Span) :
    r.KnowsBut F (p.apply ⟨settings, r⟩ called vs span) := by
  unfold Process.apply
  split
  · exact knowsBut_fail h rfl
  · rename_i name promised hbound
    -- the handle is bound, so its function is registered still
    have hname : (r.find? name).isSome = true := knowsScope_here h _ _ hbound _ rfl
    refine ⟨⟨h.scopes, h.frames, h.pending⟩, fun x hx => ?_⟩
    cases hx
    exact knowsResult_answer promised p.world closed hname hvs fun f => hF name promised f hbound
  · -- the limit of nested calls is looked at first, then the number of arguments, then their types
    split
    · split
      · split
        · rename_i e he
          exact knowsBut_fail h (isUnknownBuiltin_bindArguments he)
        · rename_i s hs
          exact knowsBut_enter h _ ((knowsScope_here h).callScope hvs hs) span
      · exact knowsBut_fail h rfl
    · exact knowsBut_fail h (isUnknownBuiltin_depthFailure _ span)
  · exact knowsBut_fail h rfl

lemma knowsBut_arguments (h : r.KnowsHeld p) (closed : r.Closed) (called : String)
    {vs : List Value} (hvs : ∀ v ∈ vs, r.Knows v) (span : Option Span) {es : List Expr}
    (hF : es = [] → p.Accounted r F called vs) :
    r.KnowsBut F (p.arguments ⟨settings, r⟩ called vs span es) := by
  cases es with
  | nil => exact knowsBut_apply h closed called hvs (hF rfl) span
  | cons e es => exact knowsBut_evaluate h e hvs

lemma knowsBut_statements (h : r.KnowsHeld p) (f : UserFunction) (caller : Nat)
    (span : Option Span) (es : List Expr) :
    r.KnowsBut F (p.statements ⟨settings, r⟩ f caller span es) := by
  unfold Process.statements
  split
  · exact knowsBut_evaluate h _ nofun
  · refine knowsBut_leave h caller (knowsResult_checkResult ?_)
    cases hv : Frame.returned? p.memory.frames with
    | none => exact knows_of_ne nofun
    | some v => exact knows_returned h.frames hv

lemma knowsBut_begin (h : r.KnowsHeld p) (closed : r.Closed) {e : Expr}
    (hfocus : p.focus = .expr e) (hF : ∀ f, p.FailsInCall r f → F f) :
    r.KnowsBut F (p.begin ⟨settings, r⟩ e) := by
  cases e with
  | leaf t span => exact knowsBut_leaf h t span
  | assign target value span =>
    simp only [begin]
    split
    · exact knowsBut_fail h rfl
    · exact knowsBut_evaluate h _ (List.forall_mem_nil _)
  | binary op left right span => exact knowsBut_evaluate h _ (List.forall_mem_nil _)
  | call called es span =>
    refine knowsBut_arguments h closed called (List.forall_mem_nil _) span ?_
    rintro rfl name promised f hbound hf
    exact hF f ⟨name, [], ⟨called, promised, .plain hfocus, hbound⟩, hf⟩
  | define name ps es returnType span => exact knowsBut_define h name ps es returnType span
  | ret inner span =>
    simp only [begin]
    split
    · exact knowsBut_fail h rfl
    · exact knowsBut_evaluate h _ (List.forall_mem_nil _)
  | hole => exact knowsBut_fail h rfl

lemma knowsBut_signal (h : r.KnowsHeld p) {v : Value} (hv : r.Knows v) :
    r.KnowsBut F (p.resume ⟨settings, r⟩ v .ret) := by
  have hframes : ∀ f ∈ Frame.signalInnermost v p.memory.frames, ∀ u, f.result = some u →
      r.Knows u := by
    intro f hf u hu
    cases hstack : p.memory.frames with
    | nil =>
      rw [hstack] at hf
      cases hf
    | cons g gs =>
      have hall := h.frames
      rw [hstack] at hf hall
      -- no frame changes but the innermost one, and that one keeps a result that it has
      rcases List.mem_cons.1 hf with rfl | hf
      · split at hu
        · exact hall g List.mem_cons_self u hu
        · cases hu
          exact hv
      · exact hall f (List.mem_cons_of_mem g hf) u hu
  refine ⟨⟨h.scopes, hframes, h.pending⟩, fun x hx => ?_⟩
  cases hx
  cases hreturned : Frame.returned? (Frame.signalInnermost v p.memory.frames) with
  | none => exact hv
  | some u => exact knows_returned hframes hreturned

/-- The values that wait are handed on. -/
lemma knowsBut_resume (h : r.KnowsHeld p) (closed : r.Closed) {v : Value} (hv : r.Knows v)
    {w : Pending} (hw : ∀ u ∈ w.values, r.Knows u)
    (hF : ∀ called vs span, w = .argument called vs [] span →
      Frame.returned? p.memory.frames = none → p.Accounted r F called (vs ++ [v])) :
    r.KnowsBut F (p.resume ⟨settings, r⟩ v w) := by
  cases w with
  | assign name =>
    exact knowsBut_unlessReturning h fun _ =>
      knowsBut_give (knowsHeld_bind h hv name) (x := .ok .nothing) (knows_of_ne nofun)
  | right op e span =>
    exact knowsBut_unlessReturning h fun _ =>
      knowsBut_evaluate h e (List.forall_mem_singleton.2 hv)
  | operate op left span =>
    exact knowsBut_unlessReturning h fun _ =>
      knowsBut_give h (knowsResult_apply op left v span)
  | argument called vs es span =>
    have hvs := List.forall_mem_append.2 ⟨hw, List.forall_mem_singleton.2 hv⟩
    refine knowsBut_unlessReturning h fun hgoing => knowsBut_arguments h closed called hvs span ?_
    rintro rfl
    exact hF called vs span rfl hgoing
  | ret => exact knowsBut_signal h hv
  | body f es caller span => exact knowsBut_statements h f caller span es
  | program index es =>
    cases es with
    | nil => exact knowsBut_give h (x := .ok .nothing) (knows_of_ne nofun)
    | cons e es =>
      exact knowsBut_evaluate (knowsHeld_note h _) e nofun

lemma knowsBut_abandon (h : r.KnowsHeld p) {f : Failure} (hf : r.KnowsResult F (.error f))
    (w : Pending) : r.KnowsBut F (p.abandon f w) := by
  cases w with
  | body g es caller span => exact knowsBut_leave h caller hf
  | _ => exact knowsBut_give h hf

/-- What accounts for the failures of the functions that a process calls does so behind a step. -/
theorem knowsBut_step (h : r.KnowsBut F p) (closed : r.Closed)
    (hF : ∀ f, p.FailsInCall r f → F f) : r.KnowsBut F (p.step ⟨settings, r⟩) := by
  have held := h.toKnowsHeld
  unfold step
  split
  · rename_i e hfocus
    exact knowsBut_begin held closed hfocus hF
  · exact h
  · rename_i v w ws hfocus hp
    refine knowsBut_resume (knowsHeld_resumed held hp) closed (h.focus _ hfocus)
      (held.pending w (hp ▸ List.mem_cons_self)) ?_
    rintro called vs span rfl hgoing name promised f hbound hf
    exact hF f ⟨name, _, ⟨called, promised, .behind hfocus hp hgoing, hbound⟩, hf⟩
  · rename_i f w ws hfocus hp
    exact knowsBut_abandon (knowsHeld_resumed held hp) (h.focus _ hfocus) w

/-- A step makes no handle dangle. -/
theorem knowsAll_step (h : r.KnowsAll p) (closed : r.Closed) :
    r.KnowsAll (p.step ⟨settings, r⟩) :=
  (knowsBut_step (h.knowsBut fun _ _ => trivial) closed fun _ _ => trivial).knowsAll

/-- A step comes to the failure of calling a handle that dangles only where a function that it calls
fails so by itself. -/
theorem failure_step (h : r.KnowsAll p) (closed : r.Closed) {f : Failure}
    (hunknown : f.isUnknownBuiltin = true)
    (hf : (p.step ⟨settings, r⟩).focus = .result (.error f)) :
    p.focus = .result (.error f) ∨ p.FailsInCall r f :=
  (knowsBut_step (F := fun f => p.focus = .result (.error f) ∨ p.FailsInCall r f)
    (h.knowsBut fun _ => .inl) closed fun _ => .inr).focus _ hf hunknown

/-- A step calls no handle that dangles, and hands none over. -/
theorem Calls.knows {name : String} {vs : List Value} (h : p.Calls name vs) (hp : r.KnowsAll p) :
    (r.find? name).isSome = true ∧ ∀ v ∈ vs, r.Knows v := by
  obtain ⟨called, promised, happlies, hbound⟩ := h
  refine ⟨knowsScope_here hp.toKnowsHeld _ _ hbound _ rfl, ?_⟩
  cases happlies with
  | plain => exact List.forall_mem_nil _
  | behind focus pending =>
    have hvs := hp.pending _ (pending ▸ List.mem_cons_self)
    exact List.forall_mem_append.2 ⟨hvs, List.forall_mem_singleton.2 (hp.focus _ focus)⟩

end

end Process

end Scriptlet
