import Scriptlet.Proofs.Evaluation.Ending

/-!
# What evaluation changes

Evaluating an expression changes its scope at the names that the expression assigns to or defines
functions under, and not at those that only the bodies of these functions mention.  It removes no
binding, and it leaves all other scopes as they are: a call works in a scope of its own.  This does
not depend on how evaluation ends.
-/

namespace Scriptlet

/-! ## The names that an expression binds -/

mutual

/-- The names that an expression binds in its scope: those that it assigns to and those of its
definitions.  A definition does not evaluate its body, nor an assignment its target. -/
def Expr.binds : Expr → List String
  | .leaf .. => []
  | .assign target value _ =>
    (target.identifier?.map (·.payload.display)).toList ++ value.binds
  | .binary _ left right _ => left.binds ++ right.binds
  | .call _ es _ => Expr.allBinds es
  | .define name .. => [name]
  | .ret inner _ => inner.binds
  | .hole => []

/-- The names that the members of a list bind. -/
def Expr.allBinds : List Expr → List String
  | [] => []
  | e :: es => e.binds ++ Expr.allBinds es

end

/-- From `s` to `s'`, no names but these are bound anew, and no binding is removed. -/
structure Scope.Keeps (names : List String) (s s' : Scope) : Prop where
  /-- Any other name is bound to what it was bound to, if it was bound. -/
  others : ∀ x, x ∉ names → s'.get? x = s.get? x
  /-- What was bound is bound. -/
  bound : ∀ x, s.contains x → s'.contains x

namespace Scope.Keeps

variable {names names' : List String} {s s₁ s₂ : Scope}

lemma refl (names : List String) (s : Scope) : s.Keeps names s := ⟨fun _ _ => rfl, fun _ h => h⟩

lemma trans (h : s.Keeps names s₁) (h' : s₁.Keeps names s₂) : s.Keeps names s₂ :=
  ⟨fun x hx => (h'.others x hx).trans (h.others x hx), fun x hx => h'.bound x (h.bound x hx)⟩

lemma mono (h : s.Keeps names s₁) (hn : names ⊆ names') : s.Keeps names' s₁ :=
  ⟨fun x hx => h.others x fun hm => hx (hn hm), h.bound⟩

lemma set {name : String} (h : name ∈ names) (s : Scope) (v : Value) :
    s.Keeps names (s.set name v) := by
  constructor
  · intro x hx
    have hne : name ≠ x := fun same => hx (same ▸ h)
    rw [get?_set, if_neg hne]
  · intro x hx
    rw [contains, get?_set]
    split
    · rfl
    · exact hx

end Scope.Keeps

/-! ## The scope that evaluation works in -/

namespace Eval

/-- However it ends, the computation binds no names but these, and removes no binding. -/
def Confined {d : Nat} {α : Type} (names : List String) (x : Eval d α) : Prop :=
  ∀ m : Machine d, m.scope.Keeps names (x m).2.scope

section

variable {d : Nat} {α β : Type} {names names' : List String}

lemma Confined.mono {x : Eval d α} (h : x.Confined names) (hn : names ⊆ names') :
    x.Confined names' :=
  fun m => (h m).mono hn

lemma Confined.bind {x : Eval d α} {f : α → Eval d β} (hx : x.Confined names)
    (hf : ∀ a, (f a).Confined names) : (x >>= f).Confined names := by
  intro m
  have hm := hx m
  rw [bind_apply]
  rcases h : x m with ⟨failure | a, m₁⟩
  · rwa [h] at hm
  · rw [h] at hm
    exact hm.trans (hf a m₁)

lemma confined_of_scope {x : Eval d α} (h : ∀ m, (x m).2.scope = m.scope) :
    x.Confined names := by
  intro m
  rw [h m]
  exact .refl names m.scope

lemma confined_bindName {name : String} (h : name ∈ names) (v : Value) :
    (bindName name v : Eval d Unit).Confined names :=
  fun m => .set h m.scope v

lemma Confined.unlessReturning {go : Eval d Value} (h : go.Confined names) :
    (Eval.unlessReturning go).Confined names := by
  refine .bind (confined_of_scope fun _ => rfl) fun returned => ?_
  cases returned with
  | some v => exact confined_of_scope fun _ => rfl
  | none => exact h

end

section

variable {c : Context} {d : Nat}
  {enter : (d : Int) < c.settings.maxCallDepth → List Expr → Eval (d + 1) Unit}

lemma scope_leaf (t : Token) (span : Option Span) (m : Machine d) :
    (evalLeaf c t span m).2.scope = m.scope := by
  cases hv : literal? t with
  | some v => rw [evalLeaf_literal hv]
  | none =>
    by_cases name : t.kind = .identifier
    · rw [evalLeaf_name name]
      cases m.scope.get? t.payload.display <;> rfl
    · rw [evalLeaf_other name hv]
      cases c.settings.permissiveLeaves <;> rfl

/-- A call leaves the scope of the caller, whatever its body does. -/
lemma scope_insideCall (function : String) (scope : Scope) (body : Eval (d + 1) Unit)
    (m : Machine d) : (insideCall function scope body m).2.scope = m.scope := by
  unfold insideCall
  split <;> rfl

lemma scope_builtin (r : Registry) (name : String) (vs : List Value) (promised : ValueType)
    (m : Machine d) : (r.call name vs promised m).2.scope = m.scope := by
  have hcall := call_on r name vs promised m.world m.stack
  change r.call name vs promised m = _ at hcall
  rw [hcall, World.scope_on, Process.scope_answer]
  rfl

lemma scope_callUser (f : UserFunction) (vs : List Value) (span : Option Span) (m : Machine d) :
    (callUser c enter f vs span m).2.scope = m.scope := by
  unfold callUser
  split
  · split
    · simp only [bind_apply, read_apply, ofExcept_apply, note_apply]
      cases bindArguments c.settings f.name vs span f.params
          (m.scope.snapshot ("call:" ++ f.name)) with
      | error failure => rfl
      | ok scope =>
        have hscope := scope_insideCall f.name scope (enter ‹_› f.body)
          { m with log := m.log.push (.functionCalled f.name (d + 1)) }
        dsimp only
        rcases h : insideCall f.name scope (enter ‹_› f.body)
          { m with log := m.log.push (.functionCalled f.name (d + 1)) } with ⟨failure | v, m₁⟩
        · rwa [h] at hscope
        · rwa [h] at hscope
    · rfl
  · rfl

/-- Calling what a name is bound to leaves the scope as it is. -/
lemma scope_callNamed (name : String) (vs : List Value) (span : Option Span) (m : Machine d) :
    (callNamed c enter name vs span m).2.scope = m.scope := by
  unfold callNamed
  rw [bind_apply, read_apply]
  rcases m.scope.get? name with _ | n | s | b | (⟨builtinName, promised⟩ | f) | _
  case some.fn.builtin => exact scope_builtin c.registry builtinName vs promised m
  case some.fn.user => exact scope_callUser f vs span m
  all_goals rfl

lemma confined_define (name : String) (ps : List Param) (es : List Expr) (returnType : String)
    (span : Option Span) :
    (defineFunction name ps es returnType span : Eval d Value).Confined [name] := by
  have unchanged {α : Type} (x : Except Failure α) : (ofExcept x : Eval d α).Confined [name] :=
    confined_of_scope fun _ => rfl
  refine .bind (unchanged _) fun params => .bind (unchanged _) fun type => ?_
  refine .bind (confined_bindName List.mem_cons_self _) fun _ => ?_
  exact confined_of_scope fun _ => rfl

lemma confined_args {es : List Expr} (hes : ∀ e ∈ es, (evalWith c enter e).Confined e.binds) :
    (evalArgs c enter es).Confined (Expr.allBinds es) := by
  induction es with
  | nil =>
    rw [evalArgs]
    exact confined_of_scope fun _ => rfl
  | cons e es ih =>
    have he := hes e List.mem_cons_self
    have hrest := ih fun e h => hes e (List.mem_cons_of_mem _ h)
    rw [evalArgs, Expr.allBinds]
    refine .bind (he.mono (List.subset_append_left ..)) fun v => ?_
    refine .bind (confined_of_scope fun _ => rfl) fun returned => ?_
    cases returned with
    | some v => exact confined_of_scope fun _ => rfl
    | none =>
      refine .bind (hrest.mono (List.subset_append_right ..)) fun vs => ?_
      cases vs <;> exact confined_of_scope fun _ => rfl

/-- An expression binds the names that it is said to bind, whatever bodies do. -/
lemma confined_evalWith (e : Expr) : (evalWith c enter e).Confined e.binds := by
  induction e using Expr.induction with
  | leaf t span =>
    rw [evalWith]
    exact confined_of_scope (scope_leaf t span)
  | assign target value span _ ih =>
    rw [evalWith, Expr.binds]
    cases target.identifier? with
    | none => exact confined_of_scope fun _ => rfl
    | some t =>
      refine .bind (ih.mono (List.subset_append_right ..)) fun v => .unlessReturning ?_
      refine .bind (confined_bindName (by simp) v) fun _ => ?_
      exact confined_of_scope fun _ => rfl
  | binary op left right span ihl ihr =>
    rw [evalWith, Expr.binds]
    refine .bind (ihl.mono (List.subset_append_left ..)) fun l => .unlessReturning ?_
    refine .bind (ihr.mono (List.subset_append_right ..)) fun r => .unlessReturning ?_
    exact confined_of_scope fun _ => rfl
  | call name es span ih =>
    rw [evalWith, Expr.binds]
    refine .bind (confined_args ih) fun vs => ?_
    cases vs with
    | returned v => exact confined_of_scope fun _ => rfl
    | values vs => exact confined_of_scope (scope_callNamed name vs span)
  | define name ps es returnType span _ =>
    rw [evalWith, Expr.binds]
    exact confined_define name ps es returnType span
  | ret inner span ih =>
    rw [evalWith, Expr.binds]
    split
    · exact confined_of_scope fun _ => rfl
    · exact .bind ih fun v => confined_of_scope fun _ => rfl
  | hole =>
    rw [evalWith]
    exact confined_of_scope fun _ => rfl

/-- A call changes the scope as evaluating its arguments does. -/
lemma scope_call (name : String) (es : List Expr) (span : Option Span) (m : Machine d) :
    (evalWith c enter (.call name es span) m).2.scope = (evalArgs c enter es m).2.scope := by
  rw [evalWith, bind_apply]
  rcases evalArgs c enter es m with ⟨failure | vs | v, m₁⟩
  · rfl
  · exact scope_callNamed name vs span m₁
  · rfl

end

end Eval

/-! ## All other scopes -/

namespace Process

open Eval

/-- The process leaves `scopes` as they are, but for the one at `a`, until it is inside of no more
than `base`. -/
structure Spares (scopes : List Scope) (a : Nat) (base : List (Option Nat)) (p : Process) :
    Prop where
  /-- None of the scopes has been removed. -/
  length : scopes.length ≤ p.memory.scopes.length
  /-- None but the one at `a` has changed. -/
  others : ∀ b < scopes.length, b ≠ a → p.memory.scopes[b]? = scopes[b]?
  /-- The process is inside of `base`. -/
  inside : base <:+ p.marks
  /-- It works in the scope at `a` and in new ones. -/
  uses : ∀ b, p.Uses base b → b = a ∨ scopes.length ≤ b

section

variable {c : Context} {p : Process} {scopes : List Scope} {a : Nat} {base : List (Option Nat)}

lemma Spares.step (h : p.Spares scopes a base) (inside : base <:+ (p.step c).marks) :
    (p.step c).Spares scopes a base := by
  have hlength := length_scopes_le c p
  refine ⟨Nat.le_trans h.length hlength, fun b hb hne => ?_, inside, fun b hb => ?_⟩
  · have hscope : b ≠ p.scope := by
      rintro rfl
      obtain ⟨marks, hmarks⟩ := h.inside
      rcases h.uses p.scope ⟨marks, hmarks.symm, .inl rfl⟩ with same | new
      · exact hne same
      · omega
    rw [getElem?_scopes_step c (Nat.lt_of_lt_of_le hb h.length) hscope]
    exact h.others b hb hne
  · rcases uses_step h.inside hb with hb | ⟨rfl, -⟩
    · exact h.uses b hb
    · exact .inr h.length

/-- What is left as it is until something has come to its end. -/
lemma Spares.iterate {ws : List Pending} {n : Nat}
    (h : p.Spares scopes a (ws.filterMap Pending.mark?))
    (inside : ∀ k < n, ((Process.step c)^[k] p).Inside ws)
    (ended : ((Process.step c)^[n] p).pending = ws) {k : Nat} (hk : k ≤ n) :
    ((Process.step c)^[k] p).Spares scopes a (ws.filterMap Pending.mark?) := by
  induction k with
  | zero => exact h
  | succ k ih =>
    have hnext : ws <:+ ((Process.step c)^[k + 1] p).pending := by
      rcases Nat.lt_or_eq_of_le hk with hlt | rfl
      · obtain ⟨parts, hparts, -⟩ := inside _ hlt
        exact ⟨parts, hparts.symm⟩
      · exact ⟨[], ended.symm⟩
    rw [Function.iterate_succ_apply'] at hnext ⊢
    exact (ih (Nat.le_of_succ_le hk)).step (hnext.filterMap _)

/-- The scopes that were left as they are stand where they were. -/
lemma Spares.scopes_eq {before behind : List Scope} {s : Scope}
    (h : p.Spares (before ++ s :: behind) before.length base) :
    ∃ s' further, p.memory.scopes = before ++ s' :: (behind ++ further) := by
  have hlen := h.length
  have hothers := h.others
  generalize p.memory.scopes = scopes at hlen hothers
  rw [List.length_append, List.length_cons] at hlen hothers
  refine ⟨scopes[before.length], scopes.drop (before.length + (behind.length + 1)), ?_⟩
  -- place by place: before the scope, at it, behind it, and among the new ones
  refine List.ext_getElem? fun b => ?_
  grind

end

/-- **Effects are confined to the scope, and there to the names that are bound in it.**  However
the evaluation of an expression ends, it has changed its scope at no name but those that the
expression assigns to or defines functions under, outside of the bodies of these functions, and has
removed no binding.  At every moment until then, whatever waits for its result, all other scopes
that there were stand before and behind this one as they were, followed by those that were made
since.  A call, in particular, has changed the scope exactly as evaluating its arguments did. -/
theorem effects_confined (c : Context) {d : Nat} (e : Expr) (m : Machine d) :
    m.scope.Keeps e.binds (eval c d e m).2.scope ∧
    (∀ (ws : List Pending) (before behind : List Scope),
      let p := of (.expr e) ws before.length (before ++ m.scope :: behind) m
      ∃ n further,
        (Process.step c)^[n] p = of (.result (eval c d e m).1) ws before.length
          (before ++ (eval c d e m).2.scope :: (behind ++ further)) (eval c d e m).2 ∧
        ∀ k ≤ n, ∃ s further, ((Process.step c)^[k] p).memory.scopes =
          before ++ s :: (behind ++ further)) ∧
    ∀ (name : String) (es : List Expr) (span : Option Span),
      (eval c d (.call name es span) m).2.scope =
        (evalArgs c (Eval.enter c d) es m).2.scope := by
  simp only [eval_eq]
  refine ⟨confined_evalWith e m, fun ws before behind => ?_, fun name es span =>
    scope_call name es span m⟩
  have hscope : (before ++ m.scope :: behind)[before.length]? = some m.scope := by simp
  obtain ⟨further, hwithin⟩ := simulates c d e m ws before.length _ hscope
  obtain ⟨n, hn, inside⟩ := hwithin.iterate
  have start : (of (.expr e) ws before.length (before ++ m.scope :: behind) m).Spares
      (before ++ m.scope :: behind) before.length (ws.filterMap Pending.mark?) := by
    refine ⟨Nat.le_refl _, fun _ _ _ => rfl, List.suffix_rfl, fun b hb => .inl ?_⟩
    obtain ⟨marks, hmarks, hb⟩ := hb
    obtain rfl : marks = [] := List.append_left_eq_self.1 hmarks.symm
    rcases hb with hb | hb
    · exact hb
    · cases hb
  have ended := congrArg Process.pending hn
  refine ⟨n, further, ?_, fun k hk => (start.iterate inside ended hk).scopes_eq⟩
  rw [hn]
  simp

end Process

end Scriptlet
