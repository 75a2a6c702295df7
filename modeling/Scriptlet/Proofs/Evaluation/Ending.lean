import Mathlib.Logic.Function.Iterate
import Scriptlet.Program
import Scriptlet.Proofs.Evaluation.Agreement
import Scriptlet.Proofs.Evaluation.Steps

/-!
# Evaluation ends

A process that is at an expression comes to an end of it after finitely many steps.  It then has the
result that `eval` gives and its memory holds what `eval` leaves: the scope that it works in and the
frames are as the machine's, and all other scopes that there were are as they were.
-/

namespace Scriptlet

namespace Process

open Eval

/-- A process that shows a machine: it works in the scope at `a`, inside of the machine's calls. -/
def of {d : Nat} (focus : Focus) (pending : List Pending) (a : Nat) (scopes : List Scope)
    (m : Machine d) : Process :=
  ⟨focus, pending, a, ⟨scopes, m.stack.toList, m.output, m.log⟩⟩

/-- The process has yet to come to an end of what `pending` waits for. -/
def Inside (pending : List Pending) (p : Process) : Prop :=
  ∃ parts, p.pending = parts ++ pending ∧ (parts = [] → ∃ e, p.focus = .expr e)

/-- `Within c ws p q`: steps lead from `p` to `q`, and before `q` nothing is handed over to `ws`. -/
inductive Within (c : Context) (ws : List Pending) : Process → Process → Prop
  /-- No step. -/
  | here {p : Process} : Within c ws p p
  /-- A step, and further ones behind it. -/
  | further {p q : Process} (inside : p.Inside ws) (h : Within c ws (p.step c) q) : Within c ws p q

section

variable {c : Context} {d : Nat} {p q r : Process} {w : Pending} {ws : List Pending}

lemma Inside.of_pending (h : p.pending = w :: ws) : p.Inside ws :=
  ⟨[w], h, fun hw => absurd hw (List.cons_ne_nil w [])⟩

lemma Inside.of_cons (h : p.Inside (w :: ws)) : p.Inside ws := by
  obtain ⟨parts, hp, -⟩ := h
  exact ⟨parts ++ [w], by simp [hp], by simp⟩

lemma Within.of_cons (h : Within c (w :: ws) p q) : Within c ws p q := by
  induction h with
  | here => exact .here
  | further inside _ ih => exact .further inside.of_cons ih

lemma Within.trans (h : Within c ws p q) (h' : Within c ws q r) : Within c ws p r := by
  induction h with
  | here => exact h'
  | further inside _ ih => exact .further inside (ih h')

/-- The steps can be counted. -/
lemma Within.iterate (h : Within c ws p q) :
    ∃ n, (Process.step c)^[n] p = q ∧ ∀ k < n, ((Process.step c)^[k] p).Inside ws := by
  induction h with
  | here => exact ⟨0, rfl, by simp⟩
  | further inside _ ih =>
    obtain ⟨n, hn, hall⟩ := ih
    refine ⟨n + 1, hn, fun k hk => ?_⟩
    cases k with
    | zero => exact inside
    | succ k => exact hall k (by omega)

end

/-- Steps lead from `p` to a process that only `ws` waits for.  The scope at `a` has become `s`,
further scopes have been made, and no other scope has changed. -/
def Reaches (c : Context) (ws : List Pending) (p : Process) (scopes : List Scope) (a : Nat)
    (s : Scope) (q : List Scope → Process) : Prop :=
  ∃ further, Within c ws p (q (scopes.set a s ++ further))

/-- Steps lead from `p` to the end of what `ws` waits for, with the result and the machine that are
said. -/
def Comes (c : Context) (ws : List Pending) (p : Process) (scopes : List Scope) (a : Nat) {d : Nat}
    (x : Except Failure Value × Machine d) : Prop :=
  Reaches c ws p scopes a x.2.scope fun scopes => of (.result x.1) ws a scopes x.2

section

variable {c : Context} {d : Nat} {p : Process} {w : Pending} {ws : List Pending} {focus : Focus}
  {scopes : List Scope} {a : Nat} {m : Machine d}

lemma lt_length (h : scopes[a]? = some m.scope) : a < scopes.length :=
  (List.getElem?_eq_some_iff.1 h).1

lemma set_scope (h : scopes[a]? = some m.scope) : scopes.set a m.scope = scopes := by
  obtain ⟨ha, h⟩ := List.getElem?_eq_some_iff.1 h
  rw [← h, List.set_getElem_self]

lemma here_of (h : scopes[a]? = some m.scope) : (of focus ws a scopes m).here = m.scope := by
  simp [here, of, h]

lemma returned?_toList (s : CallStack d) : Frame.returned? s.toList = s.returned? := by
  cases s <;> rfl

lemma signalInnermost_toList (s : CallStack d) (v : Value) :
    Frame.signalInnermost v s.toList = (s.signal v).toList := by
  cases s <;> rfl

lemma bind_of (h : scopes[a]? = some m.scope) (name : String) (v : Value) :
    (of focus ws a scopes m).bind name v =
      of focus ws a (scopes.set a (m.scope.set name v)) { m with scope := m.scope.set name v } := by
  simp [Process.bind, of, List.modify_eq_set_getElem?, h]

lemma reaches_unchanged {q : List Scope → Process} (h : scopes[a]? = some m.scope) :
    Reaches c ws (q scopes) scopes a m.scope q :=
  ⟨[], by rw [List.append_nil, set_scope h]; exact .here⟩

/-- A part that has its result has come to its end. -/
lemma comes_result (h : scopes[a]? = some m.scope) (r : Except Failure Value) :
    Comes c ws (of (.result r) ws a scopes m) scopes a (r, m) :=
  reaches_unchanged (q := fun scopes => of (.result r) ws a scopes m) h

/-- So has a part that has changed the scope. -/
lemma comes_changed (r : Except Failure Value) (m : Machine d) :
    Comes c ws (of (.result r) ws a (scopes.set a m.scope) m) scopes a (r, m) :=
  ⟨[], by rw [List.append_nil]; exact .here⟩

lemma reaches_step {s : Scope} {q : List Scope → Process} (inside : p.Inside ws)
    (h : Reaches c ws (p.step c) scopes a s q) : Reaches c ws p scopes a s q := by
  obtain ⟨further, h⟩ := h
  exact ⟨further, .further inside h⟩

/-- From the end of a part to the end of the whole. -/
lemma Comes.trans {x : Except Failure Value × Machine d} {s : Scope} {q : List Scope → Process}
    (ha : a < scopes.length) (h : Comes c (w :: ws) p scopes a x)
    (hrest : ∀ scopes' : List Scope, scopes'[a]? = some x.2.scope →
      Reaches c ws (of (.result x.1) (w :: ws) a scopes' x.2) scopes' a s q) :
    Reaches c ws p scopes a s q := by
  obtain ⟨further, h⟩ := h
  have hlen : a < (scopes.set a x.2.scope).length := by rwa [List.length_set]
  obtain ⟨further', h'⟩ := hrest (scopes.set a x.2.scope ++ further)
    (by rw [List.getElem?_append_left hlen, List.getElem?_set_self ha])
  refine ⟨further ++ further', h.of_cons.trans ?_⟩
  rwa [List.set_append_left _ _ hlen, List.set_set, List.append_assoc] at h'

/-- A part is evaluated, and what waits for it goes on with its value or passes its failure on. -/
lemma comes_part {part : Eval d Value} {go : Value → Eval d Value} {e : Expr}
    (ha : a < scopes.length)
    (hpart : Comes c (w :: ws) (of (.expr e) (w :: ws) a scopes m) scopes a (part m))
    (hw : w.mark? = none)
    (hgo : ∀ v (m₁ : Machine d) (scopes' : List Scope), scopes'[a]? = some m₁.scope →
      Comes c ws ((of (.result (.ok v)) ws a scopes' m₁).resume c v w) scopes' a (go v m₁)) :
    Comes c ws (of (.expr e) (w :: ws) a scopes m) scopes a ((part >>= go) m) := by
  refine hpart.trans ha fun scopes' h => reaches_step (.of_pending rfl) ?_
  rw [bind_apply]
  -- a failure passes what waits, which is no body since that has a mark
  rcases hx : part m with ⟨failure | v, m₁⟩
  · rw [hx] at h
    have habandon : ({ of (.result (.error failure)) (w :: ws) a scopes' m₁ with
        pending := ws } : Process).abandon failure w =
          of (.result (.error failure)) ws a scopes' m₁ := by
      cases w <;> first | rfl | cases hw
    change Comes c ws (Process.abandon _ failure w) _ _ _
    rw [habandon]
    exact comes_result h _
  · rw [hx] at h
    exact hgo v m₁ scopes' h

lemma comes_unlessReturning {go : Eval d Value} {q : Process} (h : scopes[a]? = some m.scope)
    (hgo : Comes c ws q scopes a (go m)) :
    Comes c ws ((of focus ws a scopes m).unlessReturning q) scopes a
      (Eval.unlessReturning go m) := by
  have hframes : Frame.returned? (of focus ws a scopes m).memory.frames = m.stack.returned? :=
    returned?_toList m.stack
  rw [unlessReturning_apply, Process.unlessReturning, hframes]
  cases m.stack.returned? with
  | some v => exact comes_result h _
  | none => exact hgo

/-- The step from an expression to its first part. -/
lemma comes_begin {e : Expr} {x : Except Failure Value × Machine d}
    (h : Comes c ws ((of (.expr e) ws a scopes m).begin c e) scopes a x) :
    Comes c ws (of (.expr e) ws a scopes m) scopes a x :=
  reaches_step ⟨[], rfl, fun _ => ⟨e, rfl⟩⟩ h

end

/-- Whatever waits for it, a process that is at the expression comes to what `eval` gives. -/
def Simulates (c : Context) (d : Nat) (e : Expr) : Prop :=
  ∀ (m : Machine d) (ws : List Pending) (a : Nat) (scopes : List Scope),
    scopes[a]? = some m.scope →
      Comes c ws (of (.expr e) ws a scopes m) scopes a (evalWith c (Eval.enter c d) e m)

section

variable {c : Context} {d : Nat} {ws : List Pending} {focus : Focus} {scopes : List Scope}
  {a : Nat} {m : Machine d}

lemma comes_leaf (h : scopes[a]? = some m.scope) (t : Token) (span : Option Span) :
    Comes c ws ((of focus ws a scopes m).leaf c t span) scopes a (evalLeaf c t span m) := by
  unfold Process.leaf
  rw [here_of h]
  cases hv : literal? t with
  | some v =>
    rw [evalLeaf_literal hv]
    exact comes_result h _
  | none =>
    by_cases name : t.kind = .identifier
    · rw [evalLeaf_name name]
      simp only [name, if_true]
      cases m.scope.get? t.payload.display with
      | some v => exact comes_result h _
      | none => exact comes_result h _
    · rw [evalLeaf_other name hv]
      simp only [name, if_false]
      cases c.settings.permissiveLeaves with
      | true => exact comes_result (m := { m with log := m.log.push _ }) h _
      | false => exact comes_result h _

lemma comes_define (h : scopes[a]? = some m.scope) (name : String) (ps : List Param)
    (es : List Expr) (returnType : String) (span : Option Span) :
    Comes c ws ((of focus ws a scopes m).define name ps es returnType span) scopes a
      (defineFunction name ps es returnType span m) := by
  unfold Process.define
  cases hs : resolveSignature ps returnType span with
  | error f =>
    have hdefine : defineFunction name ps es returnType span m = (.error f, m) := by
      rcases resolveSignature_eq_error hs with hps | ⟨params, hps, ht⟩
      · simp [defineFunction, hps]
      · simp [defineFunction, hps, ht]
    rw [hdefine]
    exact comes_result h _
  | ok signature =>
    obtain ⟨params, type⟩ := signature
    obtain ⟨hps, ht⟩ := resolveSignature_eq_ok hs
    simp only [bind_of h, here_of h]
    simp only [defineFunction, bind_apply, ofExcept_apply, hps, ht, bindName_apply, read_apply,
      note_apply, pure_apply]
    let m' : Machine d := ⟨m.scope.set name (.fn (.user ⟨name, params, es, type⟩)), m.stack,
      m.output, m.log.push (.functionDefined name params.length m.scope.name)⟩
    exact comes_changed (.ok .nothing) m'

/-- A process at the end of a call that was made at `caller`, given what came of its body. -/
def ofEnd (c : Context) (f : UserFunction) (caller : Nat) (span : Option Span) (ws : List Pending)
    (x : Except Failure Unit × Machine (d + 1)) (scopes : List Scope) : Process :=
  of (.result (x.1.bind fun _ => checkResult c.settings f span x.2.stack.top.returnValue)) ws caller
    scopes ⟨x.2.scope, x.2.stack.pop, x.2.output, x.2.log⟩

lemma leave_of (m : Machine (d + 1)) (caller : Nat) (r : Except Failure Value) :
    (of focus ws a scopes m).leave caller r =
      of (.result r) ws caller scopes ⟨m.scope, m.stack.pop, m.output, m.log⟩ := by
  obtain ⟨_, ⟨_, _⟩, _, _⟩ := m
  rfl

lemma statements_goes {m : Machine (d + 1)} (hr : m.stack.returned? = none) (f : UserFunction)
    (caller : Nat) (span : Option Span) (e : Expr) (es : List Expr) :
    (of focus ws a scopes m).statements c f caller span (e :: es) =
      of (.expr e) (.body f es caller span :: ws) a scopes m := by
  have hframes : Frame.returned? (of focus ws a scopes m).memory.frames = none := by
    rw [← hr]
    exact returned?_toList m.stack
  unfold Process.statements
  rw [hframes]
  rfl

lemma statements_ends {m : Machine (d + 1)} {es : List Expr}
    (h : es = [] ∨ m.stack.returned?.isSome) (f : UserFunction) (caller : Nat)
    (span : Option Span) :
    (of focus ws a scopes m).statements c f caller span es =
      ofEnd c f caller span ws (.ok (), m) scopes := by
  have hframes : Frame.returned? (of focus ws a scopes m).memory.frames = m.stack.returned? :=
    returned?_toList m.stack
  have hvalue : m.stack.top.returnValue = m.stack.returned?.getD .nothing := by
    obtain ⟨_, ⟨_, _⟩, _, _⟩ := m
    rfl
  unfold Process.statements
  rw [hframes]
  split
  · rename_i hr
    rcases h with h | h
    · cases h
    · rw [hr] at h
      cases h
  · rw [leave_of, ofEnd, hvalue]
    rfl

/-- A body is evaluated statement by statement, and then the call ends. -/
lemma reaches_body {m : Machine (d + 1)} {f : UserFunction} {caller : Nat} {span : Option Span}
    {es : List Expr} {v : Value} (hes : ∀ e ∈ es, Simulates c (d + 1) e)
    (h : scopes[a]? = some m.scope) (hr : m.stack.returned? = none) :
    Reaches c ws (of (.result (.ok v)) (.body f es caller span :: ws) a scopes m) scopes a
      (runBody (eval c (d + 1)) es m).2.scope
      (ofEnd c f caller span ws (runBody (eval c (d + 1)) es m)) := by
  induction es generalizing m v scopes with
  | nil =>
    refine reaches_step (.of_pending rfl) ?_
    change Reaches c ws ((of _ ws a scopes m).statements c f caller span []) _ _ _ _
    rw [statements_ends (.inl rfl)]
    exact reaches_unchanged (q := ofEnd c f caller span ws (.ok (), m)) h
  | cons e es ih =>
    refine reaches_step (.of_pending rfl) ?_
    change Reaches c ws ((of _ ws a scopes m).statements c f caller span (e :: es)) _ _ _ _
    rw [statements_goes hr]
    have he := hes e List.mem_cons_self m (.body f es caller span :: ws) a scopes h
    rw [← eval_eq] at he
    refine he.trans (lt_length h) fun scopes' h' => ?_
    simp only [runBody, bind_apply, returning_apply]
    rcases hx : eval c (d + 1) e m with ⟨failure | v', m₁⟩
    · -- the statement fails, and with it the call
      rw [hx] at h'
      refine reaches_step (.of_pending rfl) ?_
      change Reaches c ws ((of _ ws a scopes' m₁).leave caller (.error failure)) _ _ _ _
      rw [leave_of]
      exact reaches_unchanged (q := ofEnd c f caller span ws (.error failure, m₁)) h'
    · rw [hx] at h'
      dsimp only at h' ⊢
      cases hr' : m₁.stack.returned? with
      | none => exact ih (fun e he => hes e (List.mem_cons_of_mem _ he)) h' hr'
      | some w =>
        -- the call is returning, so the statements that are left are passed over
        refine reaches_step (.of_pending rfl) ?_
        change Reaches c ws ((of _ ws a scopes' m₁).statements c f caller span es) _ _ _ _
        rw [statements_ends (.inr (by rw [hr']; rfl))]
        exact reaches_unchanged (q := ofEnd c f caller span ws (.ok (), m₁)) h'

/-- A call works in a new scope, and the caller's scope is as it was. -/
lemma comes_enter (hbody : ∀ e, Simulates c (d + 1) e) (h : scopes[a]? = some m.scope)
    (f : UserFunction) (scope : Scope) (span : Option Span) :
    Comes c ws ((of focus ws a scopes m).enter f scope span) scopes a
      ((do
        Eval.note (.functionCalled f.name (d + 1))
        let v ← insideCall f.name scope (runBody (eval c (d + 1)) f.body)
        ofExcept (checkResult c.settings f span v)) m) := by
  let m' : Machine (d + 1) :=
    ⟨scope, .push { function := f.name } m.stack, m.output,
      m.log.push (.functionCalled f.name (d + 1))⟩
  have henter : (of focus ws a scopes m).enter f scope span =
      of (.result (.ok .nothing)) (.body f f.body a span :: ws) scopes.length (scopes ++ [scope])
        m' := by
    simp [Process.enter, of, m', CallStack.toList]
  obtain ⟨further, hw⟩ : Reaches c ws
      (of (.result (.ok .nothing)) (.body f f.body a span :: ws) scopes.length
        (scopes ++ [scope]) m')
      (scopes ++ [scope]) scopes.length _
      (ofEnd c f a span ws (runBody (eval c (d + 1)) f.body m')) :=
    reaches_body (fun e _ => hbody e) (by simp [m']) rfl
  rw [henter]
  simp only [bind_apply, note_apply, insideCall]
  -- the scope of the call stays behind, at the end of those that there were
  have hscopes (s : Scope) : (scopes ++ [scope]).set scopes.length s ++ further =
      scopes.set a m.scope ++ s :: further := by
    simp [set_scope h]
  rw [hscopes] at hw
  rcases hx : runBody (eval c (d + 1)) f.body m' with ⟨failure | _, m₁⟩
  · rw [hx] at hw
    exact ⟨_, hw⟩
  · rw [hx] at hw
    exact ⟨_, hw⟩

lemma scope_answer (r : Registry) (name : String) (vs : List Value) (promised : ValueType)
    (w : World) : (answer r name vs promised w).2.scope = w.scope := by
  unfold answer
  repeat' split
  all_goals rfl

lemma comes_apply (hbody : (d : Int) < c.settings.maxCallDepth → ∀ e, Simulates c (d + 1) e)
    (h : scopes[a]? = some m.scope) (name : String) (vs : List Value) (span : Option Span) :
    Comes c ws ((of focus ws a scopes m).apply c name vs span) scopes a
      (callNamed c (Eval.enter c d) name vs span m) := by
  unfold Process.apply callNamed
  rw [here_of h]
  simp only [bind_apply, read_apply]
  cases hg : m.scope.get? name with
  | none => exact comes_result h _
  | some v =>
    rcases v with n | s | b | (⟨builtinName, promised⟩ | f) | _
    case fn.builtin =>
      have hcall := call_on c.registry builtinName vs promised m.world m.stack
      change c.registry.call builtinName vs promised m = _ at hcall
      have hworld : (of focus ws a scopes m).world = m.world := by
        rw [world, here_of h]
        rfl
      simp only [hcall, hworld]
      refine comes_result (m := (answer c.registry builtinName vs promised m.world).2.on m.stack)
        ?_ _
      rw [World.scope_on, scope_answer]
      exact h
    case fn.user =>
      have hlen : ((of focus ws a scopes m).memory.frames.length : Int) = d := by
        simp [of]
      simp only [hlen, callUser]
      by_cases depth : (d : Int) < c.settings.maxCallDepth
      · simp only [depth, if_true, dif_pos]
        by_cases arity : vs.length = f.params.length
        · simp only [arity, if_true, callScope]
          simp only [bind_apply, read_apply, ofExcept_apply]
          cases hs : bindArguments c.settings f.name vs span f.params
              (m.scope.snapshot ("call:" ++ f.name)) with
          | error e => exact comes_result h _
          | ok scope => exact comes_enter (hbody depth) h f scope span
        · simp only [arity, if_false]
          exact comes_result h _
      · simp only [depth, if_false, dif_neg, not_false_eq_true]
        exact comes_result h _
    all_goals exact comes_result h _

lemma bind_bind_apply {α β γ : Type} (x : Eval d α) (f : α → Eval d β) (g : β → Eval d γ)
    (m : Machine d) : ((x >>= f) >>= g) m = (x >>= fun a => f a >>= g) m := by
  simp only [bind_apply]
  rcases x m with ⟨_ | _, _⟩ <;> rfl

/-- The call of `name`, once the arguments that follow the values `vs` are evaluated. -/
def callWith (c : Context) (d : Nat) (name : String) (vs : List Value) (span : Option Span) :
    Arguments → Eval d Value
  | .returned v => return v
  | .values us => callNamed c (Eval.enter c d) name (vs ++ us) span

/-- What is left to do of a call behind one of its arguments. -/
lemma evalArgs_behind (name : String) (vs : List Value) (v : Value) (span : Option Span)
    (es : List Expr) (m : Machine d) :
    ((do
      match ← returning with
      | some v => return .returned v
      | none =>
        match ← evalArgs c (Eval.enter c d) es with
        | .values vs => return .values (v :: vs)
        | .returned v => return .returned v) >>= callWith c d name vs span) m =
      Eval.unlessReturning
        (evalArgs c (Eval.enter c d) es >>= callWith c d name (vs ++ [v]) span) m := by
  rw [unlessReturning_apply]
  simp only [bind_apply, returning_apply]
  cases m.stack.returned? with
  | some w => rfl
  | none =>
    rcases hx : evalArgs c (Eval.enter c d) es m with ⟨failure | us | w, m₁⟩
    · simp [hx]
    · simp [hx, callWith]
    · simp [hx, callWith]

/-- The arguments of a call are evaluated one by one, and then the call is made. -/
lemma comes_arguments (hbody : (d : Int) < c.settings.maxCallDepth → ∀ e, Simulates c (d + 1) e)
    {es : List Expr} (hes : ∀ e ∈ es, Simulates c d e) (h : scopes[a]? = some m.scope)
    (name : String) (vs : List Value) (span : Option Span) :
    Comes c ws ((of focus ws a scopes m).arguments c name vs span es) scopes a
      ((evalArgs c (Eval.enter c d) es >>= callWith c d name vs span) m) := by
  induction es generalizing m vs scopes focus with
  | nil =>
    have hcall : Comes c ws ((of focus ws a scopes m).apply c name vs span) scopes a _ :=
      comes_apply hbody h name vs span
    simpa [Process.arguments, evalArgs, callWith] using hcall
  | cons e es ih =>
    rw [evalArgs, bind_bind_apply]
    have he := hes e List.mem_cons_self m (.argument name vs es span :: ws) a scopes h
    refine comes_part (lt_length h) he rfl fun v m₁ scopes' h' => ?_
    have hrest : Comes c ws ((of (.result (.ok v)) ws a scopes' m₁).arguments c name (vs ++ [v])
        span es) scopes' a _ :=
      ih (fun e he => hes e (List.mem_cons_of_mem _ he)) h' (vs ++ [v])
    exact (congrArg (Comes c ws _ scopes' a) (evalArgs_behind name vs v span es m₁)).mpr
      (comes_unlessReturning h' hrest)

/-- An expression is simulated, if those in bodies are one call deeper. -/
lemma simulates_of_body (c : Context) (d : Nat)
    (hbody : (d : Int) < c.settings.maxCallDepth → ∀ e, Simulates c (d + 1) e) (e : Expr) :
    Simulates c d e := by
  induction e using Expr.induction with
  | leaf t span =>
    intro m ws a scopes h
    exact comes_begin (comes_leaf h t span)
  | assign target value span _ ih =>
    intro m ws a scopes h
    refine comes_begin ?_
    simp only [begin, evalWith]
    cases ht : target.identifier? with
    | none => exact comes_result h _
    | some t =>
      refine comes_part (lt_length h) (ih m _ a scopes h) rfl fun v m₁ scopes' h' => ?_
      refine comes_unlessReturning h' ?_
      rw [bind_of h']
      exact comes_changed (.ok .nothing) { m₁ with scope := m₁.scope.set t.payload.display v }
  | binary op left right span ihl ihr =>
    intro m ws a scopes h
    refine comes_begin ?_
    simp only [evalWith]
    refine comes_part (lt_length h) (ihl m _ a scopes h) rfl fun l m₁ scopes₁ h₁ => ?_
    refine comes_unlessReturning h₁ ?_
    refine comes_part (lt_length h₁) (ihr m₁ _ a scopes₁ h₁) rfl fun r m₂ scopes₂ h₂ => ?_
    exact comes_unlessReturning h₂ (comes_result h₂ _)
  | call name es span ih =>
    intro m ws a scopes h
    refine comes_begin ?_
    have heval : evalWith c (Eval.enter c d) (.call name es span) m =
        (evalArgs c (Eval.enter c d) es >>= callWith c d name [] span) m := by
      simp only [evalWith, bind_apply]
      rcases evalArgs c (Eval.enter c d) es m with ⟨_ | _ | _, _⟩ <;> rfl
    rw [heval]
    exact comes_arguments hbody ih h name [] span
  | define name ps es returnType span _ =>
    intro m ws a scopes h
    exact comes_begin (comes_define h name ps es returnType span)
  | ret inner span ih =>
    intro m ws a scopes h
    refine comes_begin ?_
    cases d with
    | zero =>
      have hframes : m.stack.toList = [] := List.length_eq_zero_iff.1 m.stack.length_toList
      have hbegin : (of (.expr (.ret inner span)) ws a scopes m).begin c (.ret inner span) =
          (of (.result (.error (.located .returnOutsideFunction span))) ws a scopes m) := by
        simp [begin, of, hframes, Process.give]
      rw [hbegin]
      exact comes_result h _
    | succ d =>
      have hframes : m.stack.toList ≠ [] := by
        rw [← List.length_pos_iff, m.stack.length_toList]
        exact Nat.succ_pos d
      have hbegin : (of (.expr (.ret inner span)) ws a scopes m).begin c (.ret inner span) =
          (of (.expr inner) (.ret :: ws) a scopes m) := by
        simp [begin, of, hframes, Process.evaluate]
      rw [hbegin]
      simp only [evalWith, Nat.add_one_ne_zero, if_false]
      refine comes_part (lt_length h) (ih m _ a scopes h) rfl fun v m₁ scopes' h' => ?_
      rw [signalReturn_apply]
      have hresume : (of (.result (.ok v)) ws a scopes' m₁).resume c v .ret =
          of (.result (.ok ((m₁.stack.signal v).returned?.getD v))) ws a scopes'
            { m₁ with stack := m₁.stack.signal v } := by
        simp [resume, of, signalInnermost_toList, returned?_toList]
      rw [hresume]
      exact comes_result (m := { m₁ with stack := m₁.stack.signal v }) h' _
  | hole =>
    intro m ws a scopes h
    exact comes_begin (comes_result h _)

/-- Every expression is simulated: a body is one call deeper, where there is less room for calls. -/
lemma simulates (c : Context) (d : Nat) (e : Expr) : Simulates c d e := by
  -- `eval` recurs along the room for calls and, inside of a body, along the expression
  induction room : c.settings.maxCallDepth.toNat - d generalizing d e with
  | zero => exact simulates_of_body c d (fun depth => by omega) e
  | succ room ih => exact simulates_of_body c d (fun depth e => ih (d + 1) e (by omega)) e

/-- Runs the statements of a program, counting them from `i`.  The program has no value. -/
def runProgram (c : Context) (i : Nat) (es : List Expr) : Eval 0 Value := do
  Program.runStatements c i es
  return .nothing

lemma runProgram_cons (i : Nat) (e : Expr) (es : List Expr) (m : Machine 0) :
    runProgram c i (e :: es) m =
      (eval c 0 e >>= fun _ => runProgram c (i + 1) es)
        { m with log := m.log.push (.statementRun i e.text) } := by
  simp only [runProgram, Program.runStatements, bind_apply, note_apply]
  rcases eval c 0 e { m with log := m.log.push (.statementRun i e.text) } with ⟨_ | _, _⟩ <;> rfl

/-- The statements of a program are evaluated one by one, up to the first failure. -/
lemma comes_program {m : Machine 0} {i : Nat} {es : List Expr} {v : Value}
    (h : scopes[a]? = some m.scope) :
    Comes c [] (of (.result (.ok v)) [.program i es] a scopes m) scopes a
      (runProgram c i es m) := by
  induction es generalizing m i v scopes with
  | nil => exact reaches_step (.of_pending rfl) (comes_result h _)
  | cons e es ih =>
    refine reaches_step (.of_pending rfl) ?_
    let m₀ : Machine 0 := { m with log := m.log.push (.statementRun i e.text) }
    have he : Comes c [.program (i + 1) es] (of (.expr e) [.program (i + 1) es] a scopes m₀)
        scopes a (eval c 0 e m₀) := by
      rw [eval_eq]
      exact simulates c 0 e m₀ _ a scopes h
    refine he.trans (lt_length h) fun scopes' h' => ?_
    rw [runProgram_cons]
    change Comes c [] _ scopes' a ((eval c 0 e >>= fun _ => runProgram c (i + 1) es) m₀)
    rw [bind_apply]
    rcases hx : eval c 0 e m₀ with ⟨failure | v', m₁⟩
    · rw [hx] at h'
      exact reaches_step (.of_pending rfl) (comes_result h' _)
    · rw [hx] at h'
      exact ih h'

end

/-! ## The end -/

section

variable {c : Context} {d : Nat}

lemma iterate_result (r : Except Failure Value) (a : Nat) (scopes : List Scope) (m : Machine d)
    (k : Nat) :
    (Process.step c)^[k] (of (.result r) [] a scopes m) = of (.result r) [] a scopes m :=
  Function.iterate_fixed rfl k

/-- A process that nothing waits for comes to its end, and stays there. -/
lemma Comes.iterate {p : Process} {before behind : List Scope} {s : Scope}
    {x : Except Failure Value × Machine d}
    (h : Comes c [] p (before ++ s :: behind) before.length x) :
    ∃ n further, ∀ k, (Process.step c)^[n + k] p =
      of (.result x.1) [] before.length (before ++ x.2.scope :: (behind ++ further)) x.2 := by
  obtain ⟨further, h⟩ := h
  obtain ⟨n, hn, -⟩ := h.iterate
  have hscopes : (before ++ s :: behind).set before.length x.2.scope ++ further =
      before ++ x.2.scope :: (behind ++ further) := by
    simp
  rw [hscopes] at hn
  refine ⟨n, further, fun k => ?_⟩
  rw [Nat.add_comm, Function.iterate_add_apply, hn, iterate_result]

end

/-- **Every evaluation ends.**  Whatever the settings, the registry, the scope and the frames are, a
process that is at an expression stands still after finitely many steps, with the result of `eval`,
its failure included, and so does a process that is at a program in the end of what
`runProgram` does.  The other scopes that there are, before and behind the one that the process
works in, are then as they were; those of the calls have been added. -/
theorem evaluation_ends (c : Context) (before behind : List Scope) :
    (∀ (d : Nat) (e : Expr) (m : Machine d), ∃ n further, ∀ k,
      (Process.step c)^[n + k]
          (of (.expr e) [] before.length (before ++ m.scope :: behind) m) =
        of (.result (eval c d e m).1) [] before.length
          (before ++ (eval c d e m).2.scope :: (behind ++ further)) (eval c d e m).2) ∧
    (∀ (es : List Expr) (m : Machine 0), ∃ n further, ∀ k,
      (Process.step c)^[n + k]
          (of (.result (.ok .nothing)) [.program 0 es] before.length
            (before ++ m.scope :: behind) m) =
        of (.result (runProgram c 0 es m).1) [] before.length
          (before ++ (runProgram c 0 es m).2.scope :: (behind ++ further))
          (runProgram c 0 es m).2) := by
  constructor
  · intro d e m
    have h : (before ++ m.scope :: behind)[before.length]? = some m.scope := by simp
    have hcomes := simulates c d e m [] before.length (before ++ m.scope :: behind) h
    rw [← eval_eq] at hcomes
    exact hcomes.iterate
  · intro es m
    have h : (before ++ m.scope :: behind)[before.length]? = some m.scope := by simp
    exact (comes_program h).iterate

end Process

end Scriptlet
