import Scriptlet.Proofs.Safety.Regular

/-!
# Nodes and their tokens

Each node of a tree was read from tokens of its own, which follow one another among the tokens of
the tree (`Derives.holds`), and the span of the node goes from the first of them to the last.
-/

namespace Scriptlet.Grammar

open Phrase

/-- Some of the tokens, which follow one another, are the expression. -/
def Holds (ts : List Token) (n : Expr) : Prop := ∃ vs, vs <:+: ts ∧ Derives (expr n) vs

lemma Derives.holds_self {ts : List Token} {n : Expr} (h : Derives (expr n) ts) : Holds ts n :=
  ⟨ts, List.infix_rfl, h⟩

lemma Holds.mono {ts us : List Token} {n : Expr} (h : Holds ts n) (hts : ts <:+: us) :
    Holds us n := by
  obtain ⟨vs, hvs, hd⟩ := h
  exact ⟨vs, hvs.trans hts, hd⟩

lemma Holds.append_left {ts : List Token} {n : Expr} (us : List Token) (h : Holds ts n) :
    Holds (us ++ ts) n :=
  h.mono (List.suffix_append us ts).isInfix

lemma Holds.append_right {ts : List Token} {n : Expr} (us : List Token) (h : Holds ts n) :
    Holds (ts ++ us) n :=
  h.mono (List.prefix_append ts us).isInfix

lemma holds_leaf {t : Token} (ht : isOperand t.kind = true) (ts : List Token) :
    Holds (t :: ts) (.leaf t t.span) :=
  (Derives.operand ht).holds_self.append_right ts

/-- **Each node of a phrase is held by its tokens.** -/
theorem Derives.holds {p : Phrase} {ts : List Token} (h : Derives p ts) :
    ∀ n ∈ p.nodes, Holds ts n := by
  induction h with
  | @ret t ts e ht h ih =>
    refine List.forall_mem_cons.2 ⟨(Derives.ret ht h).holds_self, fun n hn => ?_⟩
    exact (ih n hn).append_left [t]
  | @assign t u ts e ht hu h ih =>
    refine List.forall_mem_cons.2 ⟨(Derives.assign ht hu h).holds_self, ?_⟩
    refine List.forall_mem_cons.2 ⟨holds_leaf (by rw [ht]; rfl) _, fun n hn => ?_⟩
    exact (ih n hn).append_left [t, u]
  | callEmpty ht hu hv =>
    exact List.forall_mem_cons.2 ⟨(Derives.callEmpty ht hu hv).holds_self, List.forall_mem_nil _⟩
  | @call t u v ts es ht hu h hb hv ih =>
    refine List.forall_mem_cons.2 ⟨(Derives.call ht hu h hb hv).holds_self, fun n hn => ?_⟩
    exact ((ih n hn).append_right [v]).append_left [t, u]
  | @chain t u ts e c ht hu hc h ih =>
    have hself := (Derives.chain ht hu hc h).holds_self
    have hoperand : isOperand t.kind = true := by
      rcases ht with ht | ht <;> rw [ht] <;> rfl
    have hparts : ∀ n ∈ (Expr.leaf t t.span).nodes ++ e.nodes, Holds (t :: u :: ts) n :=
      List.forall_mem_cons.2 ⟨holds_leaf hoperand _, fun n hn => (ih n hn).append_left [t, u]⟩
    cases c with
    | operator op => exact List.forall_mem_cons.2 ⟨hself, hparts⟩
    | assign => exact List.forall_mem_cons.2 ⟨hself, hparts⟩
  | operand ht => exact List.forall_mem_singleton.2 (Derives.operand ht).holds_self
  | stray ht => exact List.forall_mem_singleton.2 (Derives.stray ht).holds_self
  | @define t v ts us head es ht hh h hv ih =>
    refine List.forall_mem_cons.2 ⟨(Derives.define ht hh h hv).holds_self, fun n hn => ?_⟩
    exact (((ih n hn).append_right [v]).append_left ts).append_left [t]
  | lastArg _ ih => simpa [Phrase.nodes, Expr.allNodes] using ih
  | definition _ _ ih => exact ih
  | @terminated t ts e _ _ _ ih => exact fun n hn => (ih n hn).append_right [t]
  | bodyEnd | programEnd => exact List.forall_mem_nil _
  | @moreArgs t ts us e es _ _ _ ih ihs =>
    refine List.forall_mem_append.2 ⟨fun n hn => (ih n hn).append_right _, fun n hn => ?_⟩
    exact ((ihs n hn).append_left [t]).append_left ts
  | @bodyMore ts us e es _ _ _ ih ihs | @programMore ts us e es _ _ ih ihs =>
    refine List.forall_mem_append.2 ⟨fun n hn => (ih n hn).append_right us, fun n hn => ?_⟩
    exact (ihs n hn).append_left ts

lemma extent_nil (t : Token) : extent t [] = t.span := by
  obtain ⟨kind, payload, lexeme, span⟩ := t
  cases span <;> rfl

/-- **The span of a node goes from the first of its tokens to the last.** -/
theorem Derives.span_eq {t : Token} {ts : List Token} {e : Expr} (h : Derives (expr e) (t :: ts)) :
    e.span = extent t ts := by
  cases h with
  | ret | assign | callEmpty | call | define => rfl
  | @chain t u ts e c => cases c <;> rfl
  | operand | stray => exact (extent_nil t).symm

/-- An operator starts no expression that goes on behind it. -/
lemma Derives.eq_nil_of_operator {t : Token} {ts : List Token} {e : Expr}
    (h : Derives (expr e) (t :: ts)) (ht : t.kind = .operator) : ts = [] := by
  cases h with
  | operand | stray => rfl
  | ret h | assign h | callEmpty h | call h | define h => cases h.symm.trans ht
  | chain h => rcases h with h | h <;> cases h.symm.trans ht

end Scriptlet.Grammar
