import Mathlib.Data.List.Basic
import Scriptlet.Proofs.Evaluation.Rules

/-!
# Evaluation step by step

A process evaluates in single steps.  It knows what it is at, what waits for the result of that,
and the memory that it works on, and nothing in its type says that it will ever end.  Its memory
holds every scope that was made so far, each at an address, and the frames of the calls in progress
as a plain list.  Scopes change in place, a call makes a new one, and a failure takes what waits for
a result away piece by piece, a frame being given up where its call is passed.

That a process ends, and with what evaluation gives, is the subject of
`Scriptlet.Proofs.Evaluation.Ending`.  Here is said what a single step may do to scopes and frames
(`step_moves`).
-/

namespace Scriptlet

/-- What processes work on. -/
structure Memory where
  /-- All scopes that were made, in the order in which they were made: the place of a scope is its
  address. -/
  scopes : List Scope
  /-- The frames of the calls in progress, the innermost first. -/
  frames : List Frame
  /-- What has been printed. -/
  output : String := ""
  /-- What has been noted. -/
  log : Array Note := #[]

/-- What waits for the result of a part. -/
inductive Pending where
  /-- An assignment, for the value to bind. -/
  | assign (name : String)
  /-- An operator, for the value of its left operand. -/
  | right (op : Operator) (right : Expr) (span : Option Span)
  /-- An operator, for the value of its right operand. -/
  | operate (op : Operator) (left : Value) (span : Option Span)
  /-- A call, for the value of an argument: those before it have values, those behind it are still
  to be evaluated. -/
  | argument (name : String) (vs : List Value) (es : List Expr) (span : Option Span)
  /-- A `return`, for the value to leave. -/
  | ret
  /-- The body of a function, for the end of a statement: these statements follow, and then the
  call that was made at `caller` ends. -/
  | body (f : UserFunction) (es : List Expr) (caller : Nat) (span : Option Span)
  /-- A program, for the end of a statement: these statements follow, counted from `index`. -/
  | program (index : Nat) (es : List Expr)

/-- What a process is at. -/
inductive Focus where
  /-- An expression is to be evaluated. -/
  | expr (e : Expr)
  /-- A part has come to an end. -/
  | result (r : Except Failure Value)

/-- An evaluation in progress. -/
structure Process where
  /-- What it is at. -/
  focus : Focus
  /-- What waits for the result of that, the next one first. -/
  pending : List Pending
  /-- The address of the scope that it works in. -/
  scope : Nat
  /-- What it works on. -/
  memory : Memory

/-- The value that the innermost call is returning, if it is. -/
def Frame.returned? : List Frame → Option Value
  | [] => none
  | f :: _ => f.result

/-- Leaves a value in the innermost frame, unless there is one. -/
def Frame.signalInnermost (v : Value) : List Frame → List Frame
  | [] => []
  | f :: fs => (if f.shouldReturn then f else f.signal v) :: fs

open Eval (Context resolveSignature answer callScope literal?)

namespace Process

/-! ## What a step consists of -/

section

variable (p : Process)

/-- The scope that the process works in. -/
def here : Scope := p.memory.scopes.getD p.scope .empty

/-- What the process finds where it is. -/
def world : World := ⟨p.here, p.memory.output, p.memory.log⟩

/-- Nothing is left to do. -/
def Ended : Prop := p.pending = [] ∧ ∃ r, p.focus = .result r

/-- The part has this result. -/
def give (r : Except Failure Value) : Process := { p with focus := .result r }

/-- An expression is evaluated, and something waits for its result. -/
def evaluate (e : Expr) (w : Pending) : Process :=
  { p with focus := .expr e, pending := w :: p.pending }

/-- Binds a name in the scope. -/
def bind (name : String) (v : Value) : Process :=
  { p with memory := { p.memory with
      scopes := p.memory.scopes.modify p.scope (·.set name v) } }

/-- Takes a note. -/
def note (n : Note) : Process := { p with memory := { p.memory with log := p.memory.log.push n } }

/-- Goes on, unless the innermost call is returning: then that call's value is the result. -/
def unlessReturning (go : Process) : Process :=
  match Frame.returned? p.memory.frames with
  | some v => p.give (.ok v)
  | none => go

/-- The value of a leaf. -/
def leaf (c : Context) (t : Token) (span : Option Span) : Process :=
  match literal? t with
  | some v => p.give (.ok v)
  | none =>
    if t.kind = .identifier then
      match p.here.get? t.payload.display with
      | some v => p.give (.ok v)
      | none => p.give (.error (.located (.undefinedVariable t.payload.display) span))
    else if c.settings.permissiveLeaves then (p.note (.leafPassedOver t.kind)).give (.ok .nothing)
    else p.give (.error (.located
      (.invalidExpression (if t.lexeme.isEmpty then t.kind.name else t.lexeme)) span))

/-- Defines a function in the scope. -/
def define (name : String) (params : List Param) (body : List Expr) (returnType : String)
    (span : Option Span) : Process :=
  match resolveSignature params returnType span with
  | .error f => p.give (.error f)
  | .ok (params, type) =>
    ((p.bind name (.fn (.user ⟨name, params, body, type⟩))).note
      (.functionDefined name params.length p.here.name)).give (.ok .nothing)

/-- Makes a scope and a frame for a call and goes to its body. -/
def enter (f : UserFunction) (scope : Scope) (span : Option Span) : Process where
  focus := .result (.ok .nothing)
  pending := .body f f.body p.scope span :: p.pending
  scope := p.memory.scopes.length
  memory :=
    { p.memory with
      scopes := p.memory.scopes ++ [scope]
      frames := { function := f.name } :: p.memory.frames
      log := p.memory.log.push (.functionCalled f.name (p.memory.frames.length + 1)) }

/-- Gives up the frame of a call and goes back to where the call was made. -/
def leave (caller : Nat) (r : Except Failure Value) : Process :=
  { p with
    focus := .result r
    scope := caller
    memory := { p.memory with frames := p.memory.frames.tail } }

/-- Calls what a name is bound to. -/
def apply (c : Context) (name : String) (vs : List Value) (span : Option Span) : Process :=
  match p.here.get? name with
  | none => p.give (.error (.located (.undefinedFunction name) span))
  | some (.fn (.builtin builtinName promised)) =>
    let (r, w) := answer c.registry builtinName vs promised p.world
    { p with focus := .result r, memory := { p.memory with output := w.output, log := w.log } }
  | some (.fn (.user f)) =>
    if (p.memory.frames.length : Int) < c.settings.maxCallDepth then
      if vs.length = f.params.length then
        match callScope c f vs span p.here with
        | .error e => p.give (.error e)
        | .ok scope => p.enter f scope span
      else p.give (.error (.located (.arityMismatch f.name f.params.length vs.length) span))
    else p.give (.error (depthFailure c.settings.maxCallDepth span))
  | some v => p.give (.error (.located (.notCallable name (some v.type)) span))

/-- Goes to the next argument of a call, or calls if there is none. -/
def arguments (c : Context) (name : String) (vs : List Value) (span : Option Span) :
    List Expr → Process
  | [] => p.apply c name vs span
  | e :: es => p.evaluate e (.argument name vs es span)

/-- Goes to the next statement of a body, or ends the call if there is none or the call is
returning. -/
def statements (c : Context) (f : UserFunction) (caller : Nat) (span : Option Span)
    (es : List Expr) : Process :=
  match Frame.returned? p.memory.frames, es with
  | none, e :: es => p.evaluate e (.body f es caller span)
  -- the value is looked up before the frame is given up
  | v, _ => p.leave caller (checkResult c.settings f span (v.getD .nothing))

/-- Goes to the next statement of a program, if there is one. -/
def program (index : Nat) : List Expr → Process
  | [] => p.give (.ok .nothing)
  | e :: es => (p.note (.statementRun index e.text)).evaluate e (.program (index + 1) es)

/-- Begins to evaluate an expression. -/
def begin (c : Context) : Expr → Process
  | .leaf t span => p.leaf c t span
  | .assign target value span =>
    match target.identifier? with
    | none => p.give (.error (.located (.invalidExpression target.text) span))
    | some t => p.evaluate value (.assign t.payload.display)
  | .binary op left right span => p.evaluate left (.right op right span)
  | .call name es span => p.arguments c name [] span es
  | .define name params body returnType span => p.define name params body returnType span
  | .ret inner span =>
    if p.memory.frames = [] then p.give (.error (.located .returnOutsideFunction span))
    else p.evaluate inner .ret
  | .hole => p.give (.error (.located (.invalidExpression "Expr") none))

/-- Hands a value over to what waits for it. -/
def resume (c : Context) (v : Value) : Pending → Process
  | .assign name => p.unlessReturning ((p.bind name v).give (.ok .nothing))
  | .right op e span => p.unlessReturning (p.evaluate e (.operate op v span))
  | .operate op l span =>
    p.unlessReturning (p.give ((op.apply l v).mapError fun cause => .located cause span))
  | .argument name vs es span => p.unlessReturning (p.arguments c name (vs ++ [v]) span es)
  | .ret =>
    let frames := Frame.signalInnermost v p.memory.frames
    { p with
      focus := .result (.ok ((Frame.returned? frames).getD v))
      memory := { p.memory with frames } }
  | .body f es caller span => p.statements c f caller span es
  | .program index es => p.program index es

/-- Passes a failure on, past what waits for a value. -/
def abandon (failure : Failure) : Pending → Process
  | .body _ _ caller _ => p.leave caller (.error failure)
  | _ => p.give (.error failure)

end

/-- Takes a step.  A process that has ended stays as it is. -/
def step (c : Context) (p : Process) : Process :=
  match p.focus, p.pending with
  | .expr e, _ => p.begin c e
  | .result _, [] => p
  | .result (.ok v), w :: ws => { p with pending := ws }.resume c v w
  | .result (.error failure), w :: ws => { p with pending := ws }.abandon failure w

end Process

/-! ## What a step may do -/

/-- Where a call was made, if this is the body of its function; nowhere, if this is a program. -/
def Pending.mark? : Pending → Option (Option Nat)
  | body _ _ caller _ => some (some caller)
  | program _ _ => some none
  | _ => none

namespace Process

/-- The calls and the program that the process is inside of, the innermost first. -/
def marks (p : Process) : List (Option Nat) := p.pending.filterMap Pending.mark?

/-- The two processes agree but for what is bound in the scope that both work in. -/
structure Near (p q : Process) : Prop where
  /-- They work in the same scope. -/
  scope : q.scope = p.scope
  /-- They are inside of the same calls. -/
  marks : q.marks = p.marks
  /-- The calls have the same frames. -/
  frames : q.memory.frames = p.memory.frames
  /-- All other scopes are the same. -/
  scopes : ∃ f, q.memory.scopes = p.memory.scopes.modify p.scope f

/-- The two processes agree but for what they are at and which values they wait for. -/
structure Alike (p q : Process) : Prop where
  /-- They work in the same scope. -/
  scope : q.scope = p.scope
  /-- They are inside of the same calls. -/
  marks : q.marks = p.marks
  /-- They work on the same memory. -/
  memory : q.memory = p.memory

/-- An expression may be evaluated next: the process is at one, or what it is inside of goes on. -/
def Goes (p : Process) : Prop :=
  (∃ e, p.focus = .expr e) ∨ Frame.returned? p.memory.frames = none

/-- What a step may do to scopes and frames. -/
inductive Moves (c : Context) (p p' : Process) : Prop
  /-- A part has its result. -/
  | gives (near : Near p p') (r : Except Failure Value) (focus : p'.focus = .result r)
  /-- A part is to be evaluated, in a call that goes on or in a program. -/
  | evaluates (near : Near p p') (going : p.Goes ∨ p.marks.head? = some none)
  /-- A value is left to be returned. -/
  | signals (scope : p'.scope = p.scope) (marks : p'.marks = p.marks)
      (scopes : p'.memory.scopes = p.memory.scopes) (v : Value)
      (frames : p'.memory.frames = Frame.signalInnermost v p.memory.frames)
      (r : Except Failure Value) (focus : p'.focus = .result r)
  /-- A program comes to its end. -/
  | finishes (scope : p'.scope = p.scope) (marks : p.marks = none :: p'.marks)
      (memory : p'.memory = p.memory) (r : Except Failure Value) (focus : p'.focus = .result r)
  /-- A call is made, if the limit allows one more. -/
  | enters (scope : p'.scope = p.memory.scopes.length) (marks : p'.marks = some p.scope :: p.marks)
      (s : Scope) (scopes : p'.memory.scopes = p.memory.scopes ++ [s]) (function : String)
      (frames : p'.memory.frames = { function } :: p.memory.frames)
      (room : (p.memory.frames.length : Int) < c.settings.maxCallDepth) (going : p.Goes)
      (r : Except Failure Value) (focus : p'.focus = .result r)
  /-- A call comes to its end. -/
  | leaves (marks : p.marks = some p'.scope :: p'.marks)
      (scopes : p'.memory.scopes = p.memory.scopes)
      (frames : p'.memory.frames = p.memory.frames.tail)
      (r : Except Failure Value) (focus : p'.focus = .result r)

section

variable {c : Context} {p q : Process} {w : Pending} {ws : List Pending}

lemma marks_cons (hp : p.pending = w :: ws) (hw : w.mark? = none) :
    ({ p with pending := ws } : Process).marks = p.marks := by
  simp [marks, hp, hw]

lemma alike_refl (p : Process) : Alike p p := ⟨rfl, rfl, rfl⟩

lemma alike_resumed (hp : p.pending = w :: ws) (hw : w.mark? = none) :
    Alike p { p with pending := ws } :=
  ⟨rfl, marks_cons hp hw, rfl⟩

lemma Alike.near (h : Alike p q) : Near p q :=
  ⟨h.scope, h.marks, by rw [h.memory], id, by rw [h.memory, List.modify_id]⟩

lemma Near.note (h : Near p q) (n : Note) : Near p (q.note n) :=
  ⟨h.scope, h.marks, h.frames, h.scopes⟩

lemma Near.bind (h : Near p q) (name : String) (v : Value) : Near p (q.bind name v) := by
  obtain ⟨f, hf⟩ := h.scopes
  refine ⟨h.scope, h.marks, h.frames, (·.set name v) ∘ f, ?_⟩
  change q.memory.scopes.modify q.scope _ = _
  rw [hf, h.scope, List.modify_modify_eq]

lemma Near.give (h : Near p q) (r : Except Failure Value) : Moves c p (q.give r) :=
  .gives ⟨h.scope, h.marks, h.frames, h.scopes⟩ r rfl

lemma Near.evaluate (h : Near p q) (e : Expr) (hw : w.mark? = none) (going : p.Goes) :
    Moves c p (q.evaluate e w) := by
  refine .evaluates ⟨h.scope, ?_, h.frames, h.scopes⟩ (.inl going)
  rw [← h.marks]
  exact List.filterMap_cons_none hw

lemma Near.unlessReturning {go : Process} (h : Near p q)
    (hgo : Frame.returned? p.memory.frames = none → Moves c p go) :
    Moves c p (q.unlessReturning go) := by
  unfold Process.unlessReturning
  rw [h.frames]
  cases hr : Frame.returned? p.memory.frames with
  | some v => exact h.give _
  | none => exact hgo hr

lemma Near.leaf (h : Near p q) (t : Token) (span : Option Span) : Moves c p (q.leaf c t span) := by
  unfold Process.leaf
  repeat' split
  all_goals first
    | exact h.give _
    | exact (h.note _).give _

lemma Near.define (h : Near p q) (name : String) (ps : List Param) (es : List Expr)
    (returnType : String) (span : Option Span) :
    Moves c p (q.define name ps es returnType span) := by
  unfold Process.define
  split
  · exact h.give _
  · exact ((h.bind _ _).note _).give _

lemma Alike.enter (h : Alike p q) (f : UserFunction) (scope : Scope) (span : Option Span)
    (going : p.Goes) (room : (q.memory.frames.length : Int) < c.settings.maxCallDepth) :
    Moves c p (q.enter f scope span) := by
  rw [h.memory] at room
  refine .enters ?_ ?_ scope ?_ f.name ?_ room going _ rfl
  · exact congrArg (·.scopes.length) h.memory
  · rw [← h.scope, ← h.marks]
    rfl
  · exact congrArg (·.scopes ++ [scope]) h.memory
  · exact congrArg ({ function := f.name } :: ·.frames) h.memory

lemma Alike.apply (h : Alike p q) (name : String) (vs : List Value) (span : Option Span)
    (going : p.Goes) : Moves c p (q.apply c name vs span) := by
  unfold Process.apply
  split
  · exact h.near.give _
  · exact .gives ⟨h.scope, h.marks, h.near.frames, h.near.scopes⟩ _ rfl
  · split
    · rename_i room
      split
      · split
        · exact h.near.give _
        · exact h.enter _ _ _ going room
      · exact h.near.give _
    · exact h.near.give _
  · exact h.near.give _

lemma Alike.arguments (h : Alike p q) (name : String) (vs : List Value) (span : Option Span)
    (es : List Expr) (going : p.Goes) : Moves c p (q.arguments c name vs span es) := by
  cases es with
  | nil => exact h.apply name vs span going
  | cons e es => exact h.near.evaluate e rfl going

/-- The end of a call. -/
lemma moves_leave {f : UserFunction} {es : List Expr} {caller : Nat} {span : Option Span}
    (hp : p.pending = .body f es caller span :: ws) (r : Except Failure Value) :
    Moves c p (({ p with pending := ws } : Process).leave caller r) := by
  refine .leaves ?_ rfl rfl r rfl
  simp [marks, hp, Process.leave, Pending.mark?]

lemma moves_statements {f : UserFunction} {es : List Expr} {caller : Nat} {span : Option Span}
    (hp : p.pending = .body f es caller span :: ws) :
    Moves c p (({ p with pending := ws } : Process).statements c f caller span es) := by
  unfold Process.statements
  split
  · rename_i hr
    refine .evaluates ⟨rfl, ?_, rfl, id, (List.modify_id _ _).symm⟩ (.inl (.inr hr))
    simp [marks, hp, Process.evaluate, Pending.mark?]
  · exact moves_leave hp _

lemma moves_program {i : Nat} {es : List Expr} (hp : p.pending = .program i es :: ws) :
    Moves c p (({ p with pending := ws } : Process).program i es) := by
  have hmarks : p.marks = none :: ({ p with pending := ws } : Process).marks := by
    simp [marks, hp, Pending.mark?]
  cases es with
  | nil => exact .finishes rfl hmarks rfl _ rfl
  | cons e es =>
    refine .evaluates ⟨rfl, ?_, rfl, id, (List.modify_id _ _).symm⟩ (.inr ?_)
    · rw [hmarks]
      rfl
    · rw [hmarks]
      rfl

lemma moves_begin (e : Expr) (he : p.focus = .expr e) : Moves c p (p.begin c e) := by
  have alike := alike_refl p
  have going : p.Goes := .inl ⟨e, he⟩
  cases e with
  | leaf t span => exact alike.near.leaf t span
  | assign target value span =>
    simp only [begin]
    split
    · exact alike.near.give _
    · exact alike.near.evaluate _ rfl going
  | binary op left right span => exact alike.near.evaluate _ rfl going
  | call name es span => exact alike.arguments name [] span es going
  | define name ps es returnType span => exact alike.near.define name ps es returnType span
  | ret inner span =>
    simp only [begin]
    split
    · exact alike.near.give _
    · exact alike.near.evaluate _ rfl going
  | hole => exact alike.near.give _

lemma moves_resume (hp : p.pending = w :: ws) (v : Value) :
    Moves c p (({ p with pending := ws } : Process).resume c v w) := by
  cases w with
  | body f es caller span => exact moves_statements hp
  | program i es => exact moves_program hp
  | ret => exact .signals rfl (marks_cons hp rfl) rfl v rfl _ rfl
  | assign name =>
    have near := (alike_resumed hp rfl).near
    exact near.unlessReturning fun _ => (near.bind name v).give _
  | right op e span =>
    have near := (alike_resumed hp rfl).near
    exact near.unlessReturning fun hr => near.evaluate e rfl (.inr hr)
  | operate op l span =>
    have near := (alike_resumed hp rfl).near
    exact near.unlessReturning fun _ => near.give _
  | argument name vs es span =>
    have alike := alike_resumed hp rfl
    exact alike.near.unlessReturning fun hr => alike.arguments name _ span es (.inr hr)

lemma moves_abandon (hp : p.pending = w :: ws) (failure : Failure) :
    Moves c p (({ p with pending := ws } : Process).abandon failure w) := by
  cases w with
  | body f es caller span => exact moves_leave hp _
  | program i es =>
    refine .finishes rfl ?_ rfl _ rfl
    simp [marks, hp, Process.abandon, Process.give, Pending.mark?]
  | _ => exact (alike_resumed hp rfl).near.give _

/-- A step does one of the six things. -/
theorem step_moves (c : Context) (p : Process) : Moves c p (p.step c) := by
  unfold step
  split
  · rename_i e he
    exact moves_begin e he
  · rename_i r hr _
    exact .gives (alike_refl p).near r hr
  · rename_i hp
    exact moves_resume hp _
  · rename_i hp
    exact moves_abandon hp _

/-! ## Scopes -/

/-- The process works in the scope at `a`, or comes back to it before it is inside of no more than
`base`. -/
def Uses (p : Process) (base : List (Option Nat)) (a : Nat) : Prop :=
  ∃ marks, p.marks = marks ++ base ∧ (a = p.scope ∨ some a ∈ marks)

/-- No scope is ever removed. -/
lemma length_scopes_le (c : Context) (p : Process) :
    p.memory.scopes.length ≤ (p.step c).memory.scopes.length := by
  cases step_moves c p with
  | gives near | evaluates near =>
    obtain ⟨f, hf⟩ := near.scopes
    simp [hf]
  | signals _ _ scopes | leaves _ scopes => simp [scopes]
  | finishes _ _ memory => simp [memory]
  | enters _ _ s scopes => simp [scopes]

/-- A step changes no scope but the one that the process works in. -/
lemma getElem?_scopes_step (c : Context) {p : Process} {b : Nat}
    (hb : b < p.memory.scopes.length) (hne : b ≠ p.scope) :
    (p.step c).memory.scopes[b]? = p.memory.scopes[b]? := by
  cases step_moves c p with
  | gives near | evaluates near =>
    obtain ⟨f, hf⟩ := near.scopes
    simp [hf, Ne.symm hne]
  | signals _ _ scopes | leaves _ scopes => rw [scopes]
  | finishes _ _ memory => rw [memory]
  | enters _ _ s scopes => rw [scopes, List.getElem?_append_left hb]

/-- A step goes to no scope but a new one or one that the process comes back to. -/
lemma uses_step {base : List (Option Nat)} {a : Nat} (inside : base <:+ p.marks)
    (h : (p.step c).Uses base a) :
    p.Uses base a ∨ a = p.memory.scopes.length ∧ a < (p.step c).memory.scopes.length := by
  obtain ⟨marks, hmarks⟩ := inside
  obtain ⟨marks', hmarks', ha⟩ := h
  cases step_moves c p with
  | gives near | evaluates near =>
    rw [near.scope] at ha
    exact .inl ⟨marks', near.marks.symm.trans hmarks', ha⟩
  | signals scope same =>
    rw [scope] at ha
    exact .inl ⟨marks', same.symm.trans hmarks', ha⟩
  | finishes scope hfinish =>
    rw [scope] at ha
    rw [hmarks'] at hfinish
    exact .inl ⟨none :: marks', hfinish, ha.imp_right (List.mem_cons_of_mem none)⟩
  | enters scope henter s scopes =>
    -- the new scope is the last one, and the call comes back to where it was made
    have hmore : marks' = some p.scope :: marks := by
      rwa [hmarks', ← hmarks, ← List.cons_append, List.append_left_inj] at henter
    rw [scope, hmore, List.mem_cons, Option.some.injEq] at ha
    rcases ha with ha | ha
    · exact .inr ⟨ha, by simp [ha, scopes]⟩
    · exact .inl ⟨marks, hmarks.symm, ha⟩
  | leaves hleave =>
    rw [hmarks'] at hleave
    refine .inl ⟨some (p.step c).scope :: marks', hleave, .inr ?_⟩
    rw [List.mem_cons, Option.some.injEq]
    exact ha

end

end Process

end Scriptlet
