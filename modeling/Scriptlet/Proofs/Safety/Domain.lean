import Scriptlet.Proofs.Evaluation.Visits

/-!
# Domains

A program gets at functions in three ways: it defines them, it looks them up, and built-in
functions give them.  A `Domain` is a class of nodes of trees and of functions that is closed under
these.  An evaluation that starts in a domain stays in it: whatever it comes by, and whatever it
ends with, is of the domain (`Domain.visits`, `Domain.ends`).
-/

namespace Scriptlet

namespace Expr

mutual

/-- An expression and its parts, those of the bodies of its definitions among them. -/
def nodes : Expr → List Expr
  | leaf t s => [leaf t s]
  | assign target value s => assign target value s :: (target.nodes ++ value.nodes)
  | binary op left right s => binary op left right s :: (left.nodes ++ right.nodes)
  | call name args s => call name args s :: allNodes args
  | define name ps body returnType s => define name ps body returnType s :: allNodes body
  | ret inner s => ret inner s :: inner.nodes
  | hole => [hole]

/-- The expressions of a list and their parts. -/
def allNodes : List Expr → List Expr
  | [] => []
  | e :: es => e.nodes ++ allNodes es

end

lemma self_mem_nodes (e : Expr) : e ∈ e.nodes := by
  cases e <;> simp [nodes]

lemma mem_allNodes {n : Expr} {es : List Expr} : n ∈ allNodes es ↔ ∃ e ∈ es, n ∈ e.nodes := by
  induction es with
  | nil => simp [allNodes]
  | cons e es ih => simp [allNodes, ih]

/-- The parts of a part are parts. -/
lemma nodes_subset {e n : Expr} (h : n ∈ e.nodes) : n.nodes ⊆ e.nodes := by
  induction e using Expr.induction with
  | leaf t s =>
    rw [List.mem_singleton.1 h]
    exact List.Subset.refl _
  | assign target value s ihl ihr | binary op target value s ihl ihr =>
    rcases List.mem_cons.1 h with rfl | h
    · exact List.Subset.refl _
    · refine List.subset_cons_of_subset _ ?_
      rcases List.mem_append.1 h with h | h
      · exact List.subset_append_of_subset_left _ (ihl h)
      · exact List.subset_append_of_subset_right _ (ihr h)
  | call name es s ih | define name ps es returnType s ih =>
    rcases List.mem_cons.1 h with rfl | h
    · exact List.Subset.refl _
    · obtain ⟨e, he, hn⟩ := mem_allNodes.1 h
      intro m hm
      exact List.mem_cons_of_mem _ (mem_allNodes.2 ⟨e, he, ih e he hn hm⟩)
  | ret inner s ih =>
    rcases List.mem_cons.1 h with rfl | h
    · exact List.Subset.refl _
    · exact List.subset_cons_of_subset _ (ih h)
  | hole =>
    rw [List.mem_singleton.1 h]
    exact List.Subset.refl _

lemma allNodes_subset {es : List Expr} {n : Expr} (h : n ∈ allNodes es) :
    n.nodes ⊆ allNodes es := by
  obtain ⟨e, he, hn⟩ := mem_allNodes.1 h
  intro m hm
  exact mem_allNodes.2 ⟨e, he, nodes_subset hn hm⟩

end Expr

lemma Operator.apply_ne_fn {op : Operator} {l r v : Value} (h : op.apply l r = .ok v)
    (f : Function) : v ≠ .fn f := by
  rintro rfl
  simp only [apply] at h
  split at h
  case h_5 | h_6 | h_7 => split at h <;> cases h
  all_goals cases h

lemma argumentAt?_mem {args : List Value} {index : Int} {v : Value}
    (h : argumentAt? args index = some v) : v ∈ args := by
  unfold argumentAt? at h
  split at h
  · exact List.mem_of_getElem? h
  · split at h
    · exact List.mem_of_getElem? h
    · cases h

namespace Eval

open Phrase

/-- A class of nodes and functions that evaluation does not lead out of. -/
structure Domain (c : Context) where
  /-- The nodes of the class. -/
  node : Expr → Prop
  /-- The functions of the class. -/
  function : Function → Prop
  /-- A definition defines a function of the class. -/
  define {name : String} {ps : List Param} {es : List Expr} {returnType : String}
    {s : Option Span} {params : List TypedParam} {type : ValueType}
    (h : node (.define name ps es returnType s))
    (hs : resolveSignature ps returnType s = .ok (params, type)) :
    function (.user ⟨name, params, es, type⟩)
  /-- The body of a function is made of nodes of the class. -/
  body {f : UserFunction} (h : function (.user f)) : ∀ n ∈ Expr.allNodes f.body, node n
  /-- A built-in function gives a function of the class if it is given no other ones. -/
  reply {name : String} {b : Builtin} {vs : List Value} {f : Function}
    (h : c.registry.find? name = some b) (hvs : ∀ g, .fn g ∈ vs → function g)
    (hf : (b.run vs).result = .ok (.fn f)) : function f

namespace Domain

variable {c : Context} (D : Domain c)

/-- The value is of the domain if it is a function. -/
def HasValue (v : Value) : Prop := ∀ f, v = .fn f → D.function f

/-- The scope binds names to values of the domain only. -/
def HasScope (s : Scope) : Prop := ∀ name v, s.get? name = some v → D.HasValue v

/-- The tree is made of nodes of the domain. -/
def HasTree (e : Expr) : Prop := ∀ n ∈ e.nodes, D.node n

/-- The trees are made of nodes of the domain. -/
def HasTrees (es : List Expr) : Prop := ∀ n ∈ Expr.allNodes es, D.node n

/-- The phrase is made of nodes and values of the domain. -/
def HasPhrase : {α : Type} → Phrase α → Prop
  | _, expr e => D.HasTree e
  | _, args es => D.HasTrees es
  | _, apply _ vs _ => ∀ v ∈ vs, D.HasValue v
  | _, .body es => D.HasTrees es

/-- What the phrase gives is of the domain. -/
def HasResult : {α : Type} → Phrase α → α → Prop
  | _, expr _, v => D.HasValue v
  | _, args _, vs => ∀ v ∈ vs, D.HasValue v
  | _, apply _ _ _, v => D.HasValue v
  | _, .body _, () => True

/-- What the phrase ends with is of the domain. -/
def HasEnd {α : Type} (p : Phrase α) : Completion α → Prop
  | .normal a => D.HasResult p a
  | .abrupt (.returned v) => D.HasValue v
  | .abrupt (.failed _) => True

/-- What is to be evaluated, and the world to evaluate it in, are of the domain. -/
def HasConfig (k : Config) : Prop := D.HasPhrase k.phrase ∧ D.HasScope k.world.scope

variable {D}

/-! ## Values and scopes -/

@[simp] lemma hasValue_fn {f : Function} : D.HasValue (.fn f) ↔ D.function f := by
  simp [HasValue]

lemma hasValue_of_ne {v : Value} (h : ∀ f, v ≠ .fn f) : D.HasValue v :=
  fun f hf => absurd hf (h f)

lemma HasScope.set {s : Scope} {v : Value} (hs : D.HasScope s) (hv : D.HasValue v)
    (name : String) : D.HasScope (s.set name v) := by
  intro x u hx
  rw [Scope.get?_set] at hx
  split at hx
  · cases hx
    exact hv
  · exact hs x u hx

lemma HasScope.populate {r : Registry} {s : Scope} (hs : D.HasScope s)
    (h : ∀ b ∈ r.builtins, D.function (.builtin b.name b.returnType)) :
    D.HasScope (r.populate s) := by
  unfold Registry.populate
  revert h
  generalize r.builtins = bs
  intro h
  induction bs generalizing s with
  | nil => exact hs
  | cons b bs ih =>
    exact ih (hs.set (hasValue_fn.2 (h b (by simp))) b.name) fun b hb => h b (by simp [hb])

lemma HasScope.bindArguments {settings : Settings} {function : String} {vs : List Value}
    {span : Option Span} {ps : List TypedParam} {s s' : Scope} (hvs : ∀ v ∈ vs, D.HasValue v)
    (hs : D.HasScope s) (h : bindArguments settings function vs span ps s = .ok s') :
    D.HasScope s' := by
  induction ps generalizing s with
  | nil =>
    cases h
    exact hs
  | cons p ps ih =>
    rw [Scriptlet.bindArguments] at h
    split at h
    · cases h
    · rename_i v hv
      split at h
      · exact ih (hs.set (hvs v (argumentAt?_mem hv)) p.name) h
      · cases h

lemma HasScope.callScope {f : UserFunction} {vs : List Value} {span : Option Span}
    {caller s : Scope} (hvs : ∀ v ∈ vs, D.HasValue v) (hs : D.HasScope caller)
    (h : callScope c f vs span caller = .ok s) : D.HasScope s :=
  have hcopy : D.HasScope (caller.snapshot ("call:" ++ f.name)) := hs
  hcopy.bindArguments hvs h

/-! ## Trees -/

lemma HasTree.node {e : Expr} (h : D.HasTree e) : D.node e := h e e.self_mem_nodes

lemma hasTree_assign {target value : Expr} {s : Option Span} :
    D.HasTree (.assign target value s) ↔
      D.node (.assign target value s) ∧ D.HasTree target ∧ D.HasTree value := by
  simp [HasTree, Expr.nodes, or_imp, forall_and]

lemma hasTree_binary {op : Operator} {left right : Expr} {s : Option Span} :
    D.HasTree (.binary op left right s) ↔
      D.node (.binary op left right s) ∧ D.HasTree left ∧ D.HasTree right := by
  simp [HasTree, Expr.nodes, or_imp, forall_and]

lemma hasTree_call {name : String} {es : List Expr} {s : Option Span} :
    D.HasTree (.call name es s) ↔ D.node (.call name es s) ∧ D.HasTrees es := by
  simp [HasTree, HasTrees, Expr.nodes]

lemma hasTree_ret {inner : Expr} {s : Option Span} :
    D.HasTree (.ret inner s) ↔ D.node (.ret inner s) ∧ D.HasTree inner := by
  simp [HasTree, Expr.nodes]

lemma hasTrees_cons {e : Expr} {es : List Expr} :
    D.HasTrees (e :: es) ↔ D.HasTree e ∧ D.HasTrees es := by
  simp [HasTree, HasTrees, Expr.allNodes, or_imp, forall_and]

/-! ## Evaluation stays in the domain -/

lemma hasEnd_ofResult {e : Expr} {x : Except Failure Value} (h : ∀ v, x = .ok v → D.HasValue v) :
    D.HasEnd (expr e) (.ofResult x) := by
  cases x with
  | error f => trivial
  | ok v => exact h v rfl

/-- An exit is no affair of the phrase that it ends. -/
lemma HasEnd.exit {α β : Type} {p : Phrase α} {q : Phrase β} {x : Exit}
    (h : D.HasEnd p (.abrupt x)) : D.HasEnd q (.abrupt x) := by
  cases x <;> exact h

lemma hasScope_answer {name : String} {vs : List Value} {promised : ValueType} {w : World}
    (hs : D.HasScope w.scope) : D.HasScope (answer c.registry name vs promised w).2.scope := by
  unfold answer
  cases c.registry.find? name with
  | none => exact hs
  | some b =>
    dsimp only
    cases b.rejection? vs with
    | some cause => exact hs
    | none =>
      dsimp only
      split
      · exact hs
      · split <;> exact hs

lemma hasValue_answer {name : String} {vs : List Value} {promised : ValueType} {w : World}
    (hvs : ∀ v ∈ vs, D.HasValue v) {v : Value}
    (h : (answer c.registry name vs promised w).1 = .ok v) : D.HasValue v := by
  intro f hf
  subst hf
  unfold answer at h
  split at h
  · cases h
  · rename_i b hb
    split at h
    · cases h
    · split at h
      · cases h
      · rename_i u hu
        split at h
        · cases h
          exact D.reply hb (fun g hg => hvs _ hg g rfl) hu
        · cases h

lemma hasValue_callValue {es : List Expr} {o : Completion Unit} (ho : D.HasEnd (.body es) o)
    {v : Value} (h : o.callValue = .ok v) : D.HasValue v := by
  rcases o with ⟨⟩ | u | f <;> cases h
  · exact hasValue_of_ne nofun
  · exact ho

lemma hasValue_checkResult {settings : Settings} {f : UserFunction} {span : Option Span}
    {u v : Value} (hu : D.HasValue u) (h : checkResult settings f span u = .ok v) :
    D.HasValue v := by
  unfold checkResult at h
  split at h <;> cases h
  exact hu

lemma hasValue_call {settings : Settings} {f : UserFunction} {span : Option Span} {es : List Expr}
    {o : Completion Unit} (ho : D.HasEnd (.body es) o) {v : Value}
    (h : o.callValue.bind (checkResult settings f span) = .ok v) : D.HasValue v := by
  cases hvalue : o.callValue with
  | error e => rw [hvalue] at h; cases h
  | ok u =>
    rw [hvalue] at h
    exact hasValue_checkResult (hasValue_callValue ho hvalue) h

lemma hasValue_literal {t : Token} {v : Value} (h : literal? t = some v) : D.HasValue v := by
  refine hasValue_of_ne fun f => ?_
  unfold literal? at h
  split at h <;> cases h <;> exact nofun

/-- An evaluation in a domain ends in it. -/
theorem ends {d : Nat} {α : Type} {p : Phrase α} {w w' : World} {o : Completion α}
    (h : Evaluates c d p w o w') (hp : D.HasPhrase p) (hs : D.HasScope w.scope) :
    D.HasEnd p o ∧ D.HasScope w'.scope := by
  induction h with
  | literal h => exact ⟨hasValue_literal h, hs⟩
  | bound _ hv => exact ⟨hs _ _ hv, hs⟩
  | unbound | rejected | assignNothing | defineExit | retOutside | hole | undefined | notCallable
  | tooDeep | wrongArity | unbindable => exact ⟨trivial, hs⟩
  | passedOver => exact ⟨hasValue_of_ne nofun, hs⟩
  | assign _ _ ih =>
    obtain ⟨hv, hs⟩ := ih (hasTree_assign.1 hp).2.2 hs
    exact ⟨hasValue_of_ne nofun, hs.set hv _⟩
  | assignExit _ _ ih => exact (ih (hasTree_assign.1 hp).2.2 hs).imp_left HasEnd.exit
  | binary _ _ ihl ihr =>
    obtain ⟨-, hl, hr⟩ := hasTree_binary.1 hp
    obtain ⟨-, hs⟩ := ihl hl hs
    obtain ⟨-, hs⟩ := ihr hr hs
    -- operators give no functions
    refine ⟨hasEnd_ofResult fun v hv => hasValue_of_ne ?_, hs⟩
    rename_i op _ _ _ l r _ _ _ _
    cases hop : op.apply l r with
    | error cause => rw [hop] at hv; cases hv
    | ok u =>
      rw [hop] at hv
      cases hv
      exact Operator.apply_ne_fn hop
  | binaryExitLeft _ ih => exact (ih (hasTree_binary.1 hp).2.1 hs).imp_left HasEnd.exit
  | binaryExitRight _ _ ihl ihr =>
    obtain ⟨-, hl, hr⟩ := hasTree_binary.1 hp
    exact (ihr hr (ihl hl hs).2).imp_left HasEnd.exit
  | @call _ _ _ _ _ _ _ _ o _ _ ihes iho =>
    obtain ⟨hvs, hs⟩ := ihes (hasTree_call.1 hp).2 hs
    have := iho hvs hs
    rcases o with _ | _ | _ <;> exact this
  | callExit _ ih => exact (ih (hasTree_call.1 hp).2 hs).imp_left HasEnd.exit
  | define h =>
    have hf := D.define (HasTree.node hp) h
    exact ⟨hasValue_of_ne nofun, hs.set (hasValue_fn.2 hf) _⟩
  | ret _ ih =>
    obtain ⟨hv, hs⟩ := ih (hasTree_ret.1 hp).2 hs
    exact ⟨hv, hs⟩
  | retExit _ ih => exact (ih (hasTree_ret.1 hp).2 hs).imp_left HasEnd.exit
  | argsEnd => exact ⟨nofun, hs⟩
  | argsNext _ _ ih ihs =>
    obtain ⟨he, hes⟩ := hasTrees_cons.1 hp
    obtain ⟨hv, hs⟩ := ih he hs
    obtain ⟨hvs, hs⟩ := ihs hes hs
    exact ⟨List.forall_mem_cons.2 ⟨hv, hvs⟩, hs⟩
  | argsExit _ ih => exact (ih (hasTrees_cons.1 hp).1 hs).imp_left HasEnd.exit
  | argsExitLater _ _ ih ihs =>
    obtain ⟨he, hes⟩ := hasTrees_cons.1 hp
    exact (ihs hes (ih he hs).2).imp_left HasEnd.exit
  | builtin h =>
    exact ⟨hasEnd_ofResult (e := .hole) fun v hv => hasValue_answer hp hv, hasScope_answer hs⟩
  | user h depth arity hcall _ ih =>
    -- the function was bound in the scope, so that its body is of the domain
    have hf := hs _ _ h _ rfl
    obtain ⟨ho, -⟩ := ih (D.body hf) (HasScope.callScope hp hs hcall)
    exact ⟨hasEnd_ofResult (e := .hole) fun v hv => hasValue_call ho hv, hs⟩
  | bodyEnd => exact ⟨trivial, hs⟩
  | @bodyNext _ _ _ _ _ _ _ o _ _ ih ihs =>
    obtain ⟨he, hes⟩ := hasTrees_cons.1 hp
    have := ihs hes (ih he hs).2
    rcases o with _ | _ | _ <;> exact this
  | bodyExit _ ih => exact (ih (hasTrees_cons.1 hp).1 hs).imp_left HasEnd.exit

lemma enters {k k' : Config} (h : Enters c k k') (hk : D.HasConfig k) : D.HasConfig k' := by
  obtain ⟨hp, hs⟩ := hk
  cases h with
  | value => exact ⟨(hasTree_assign.1 hp).2.2, hs⟩
  | left => exact ⟨(hasTree_binary.1 hp).2.1, hs⟩
  | right hl =>
    obtain ⟨-, hleft, hright⟩ := hasTree_binary.1 hp
    exact ⟨hright, (ends hl hleft hs).2⟩
  | arguments => exact ⟨(hasTree_call.1 hp).2, hs⟩
  | callee hes => exact ends hes (hasTree_call.1 hp).2 hs
  | operand => exact ⟨(hasTree_ret.1 hp).2, hs⟩
  | firstArg => exact ⟨(hasTrees_cons.1 hp).1, hs⟩
  | moreArgs he =>
    obtain ⟨hfirst, hmore⟩ := hasTrees_cons.1 hp
    exact ⟨hmore, (ends he hfirst hs).2⟩
  | body h _ _ hcall => exact ⟨D.body (hs _ _ h _ rfl), HasScope.callScope hp hs hcall⟩
  | firstStatement => exact ⟨(hasTrees_cons.1 hp).1, hs⟩
  | moreStatements he =>
    obtain ⟨hfirst, hmore⟩ := hasTrees_cons.1 hp
    exact ⟨hmore, (ends he hfirst hs).2⟩

/-- An evaluation in a domain comes by nothing that is not of the domain. -/
theorem visits {k k' : Config} (h : Visits c k k') (hk : D.HasConfig k) : D.HasConfig k' :=
  h.invariant (fun _ _ => enters) hk

end Domain

end Eval

end Scriptlet
