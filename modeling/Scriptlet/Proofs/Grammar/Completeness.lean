import Mathlib.Data.List.TakeWhile
import Scriptlet.Proofs.Grammar.Soundness

/-!
# What is derivable is read

Each reader, on the tokens of a derivation and whatever follows them, takes those tokens and gives
the tree of the derivation (`Gives`).  The only thing to be asked of what follows is that it does
not go on with the expression (`Stops`): behind a name or an integer, that is an operator, a `:=` or
an opening parenthesis.  Reading is a function, so there is no second derivation.
-/

namespace Scriptlet.Grammar

/-- The reading takes the tokens `us`, gives `a` and leaves `rest`. -/
def Gives {α : Type} {ts : List Token} (x : Except Stop (Reading α ts)) (a : α)
    (us rest : List Token) : Prop :=
  ∃ r, x = .ok r ∧ r.value = a ∧ us.getLast? = some r.last ∧ r.rest = rest

lemma Gives.bind {α β : Type} {ts ts' us vs rest rest' : List Token} {a : α} {b : β}
    {x : Except Stop (Reading α ts)} (hx : Gives x a us rest)
    {f : Reading α ts → Except Stop (Reading β ts')}
    (hf : ∀ last shorter, us.getLast? = some last → Gives (f ⟨a, last, rest, shorter⟩) b vs rest') :
    Gives (x >>= f) b vs rest' := by
  obtain ⟨⟨value, last, left, shorter⟩, rfl, rfl, hl, rfl⟩ := hx
  exact hf last shorter hl

lemma Gives.behind {α : Type} {ts us rest : List Token} {a : α} {x : Except Stop (Reading α ts)}
    (hx : Gives x a us rest) (e : Expr) : Gives (behind e x) a us rest := by
  obtain ⟨r, rfl, h⟩ := hx
  exact ⟨r, rfl, h⟩

/-! ## Headers of definitions -/

section Headers

variable {ending : Option Span} {ts us rest : List Token}

lemma gives_takeToken {t : Token} {kind : Token.Kind} (ht : t.kind = kind) (what : String) :
    Gives (takeToken ending kind what (t :: rest)) t [t] rest := by
  refine ⟨.one t rest t, ?_, rfl, rfl, rfl⟩
  exact if_pos ht

lemma gives_readParams {n : Nat} {ps : List Param} {v : Token} (h : Params n us ps)
    (hv : v.kind = .rightParen) :
    Gives (readParams ending n (us ++ v :: rest)) ps (us ++ [v]) rest := by
  induction h with
  | last ht hn =>
    rw [readParams]
    refine (gives_takeToken ht "type").bind fun _ _ _ => ?_
    refine (gives_takeToken hn "identifier").bind fun _ _ _ => ?_
    refine ⟨_, if_pos hv, rfl, rfl, rfl⟩
  | more ht hn hc h ih =>
    rw [readParams]
    refine (gives_takeToken ht "type").bind fun _ _ _ => ?_
    refine (gives_takeToken hn "identifier").bind fun _ _ _ => ?_
    show Gives (if _ then _ else if _ then _ else _) _ _ _
    rw [if_neg (by rw [hc]; decide), if_pos hc]
    refine ih.bind fun last _ hl => ⟨_, rfl, rfl, ?_, rfl⟩
    exact List.mem_getLast?_cons (List.mem_getLast?_cons (List.mem_getLast?_cons hl))

lemma gives_readParamList {ps : List Param} {v : Token} (h : ParamList us ps)
    (hv : v.kind = .rightParen) :
    Gives (readParamList ending (us ++ v :: rest)) ps (us ++ [v]) rest := by
  cases h with
  | none => exact ⟨_, if_pos hv, rfl, rfl, rfl⟩
  | some h =>
    have hr : Gives (readParams ending 0 (us ++ v :: rest)) ps (us ++ [v]) rest :=
      gives_readParams h hv
    cases h with
    | last ht | more ht =>
      unfold readParamList
      show Gives (if _ then _ else _) _ _ _
      rw [if_neg (by rw [ht]; decide)]
      exact hr

lemma gives_readReturnClause {returnType : String} {v : Token} (h : ReturnClause us returnType)
    (hv : v.kind = .leftBrace) :
    Gives (readReturnClause ending (us ++ v :: rest)) returnType (us ++ [v]) rest := by
  unfold readReturnClause
  cases h with
  | none =>
    show Gives (if _ then _ else if _ then _ else _) _ _ _
    rw [if_neg (by rw [hv]; decide), if_pos hv]
    exact ⟨_, rfl, rfl, rfl, rfl⟩
  | some ha ht =>
    show Gives (if _ then _ else if _ then _ else _) _ _ _
    rw [if_pos ha]
    refine (gives_takeToken ht "type").bind fun _ _ _ => ?_
    refine (gives_takeToken hv "brace").bind fun _ _ hl => ?_
    exact ⟨_, rfl, rfl, hl, rfl⟩

lemma gives_readHeader {head : Header} (h : Head us head) :
    Gives (readHeader ending (us ++ rest)) head us rest := by
  obtain @⟨name, left, right, brace, vs, ws, _, _, hn, hl, hp, hr, hu, hb⟩ := h
  have hts : name :: left :: (vs ++ right :: (ws ++ [brace])) ++ rest =
      name :: left :: (vs ++ right :: (ws ++ brace :: rest)) := by simp
  rw [hts]
  unfold readHeader
  refine (gives_takeToken hn "identifier").bind fun _ _ _ => ?_
  refine (gives_takeToken hl "'('").bind fun _ _ _ => ?_
  refine (gives_readParamList hp hr).bind fun _ _ _ => ?_
  refine (gives_readReturnClause hu hb).bind fun _ _ hlast => ?_
  refine ⟨_, rfl, rfl, List.mem_getLast?_cons (List.mem_getLast?_cons ?_), rfl⟩
  exact List.mem_getLast?_append_of_mem_getLast? (List.mem_getLast?_cons hlast)

end Headers

/-! ## Expressions and statements -/

/-- Whether an expression goes on with a token of this kind, if one follows.  That is up to its
rightmost part. -/
def takes : Expr → Token.Kind → Bool
  | .leaf t _, k =>
    t.kind = .identifier && (k = .assign || k = .leftParen || k = .operator) ||
      t.kind = .intLiteral && k = .operator
  | .assign _ e _, k | .binary _ _ e _, k | .ret e _, k => takes e k
  | .call .., _ | .define .., _ | .hole, _ => false

/-- The expression is complete before this token, or before the end of the tokens. -/
def Leaves (e : Expr) (next : Option Token) : Prop := ∀ t ∈ next, takes e t.kind = false

lemma leaves_of_kind {k : Token.Kind} {t : Token} {rest : List Token} (e : Expr) (ht : t.kind = k)
    (hk : k ≠ .assign ∧ k ≠ .leftParen ∧ k ≠ .operator) : Leaves e (t :: rest).head? := by
  rintro u ⟨⟩
  rw [ht]
  induction e using Expr.induction <;> simp_all [takes]

/-- The tokens do not go on with an expression that is complete before them. -/
def Stops (rest : List Token) : Prop :=
  ∀ t ∈ rest.head?, t.kind ≠ .assign ∧ t.kind ≠ .leftParen ∧ t.kind ≠ .operator

lemma stops_cons {t : Token} {rest : List Token} (ht : t.kind ≠ .assign ∧ t.kind ≠ .leftParen ∧
    t.kind ≠ .operator) : Stops (t :: rest) := by
  rintro u ⟨⟩
  exact ht

lemma stops_cons_of_eq {k : Token.Kind} {t : Token} {rest : List Token} (ht : t.kind = k)
    (hk : k ≠ .assign ∧ k ≠ .leftParen ∧ k ≠ .operator) : Stops (t :: rest) :=
  stops_cons (ht ▸ hk)

/-- Whatever follows the tokens, as far as it stands where it may, they are read as the phrase. -/
def Complete (ending : Option Span) : Phrase → List Token → Prop
  | .expr e, us => ∀ follow rest, e.isDefinition = true ∨ Stops rest →
      Gives (readExpr ending follow (us ++ rest)) e us rest
  | .args es, us => ∀ v rest, v.kind = .rightParen →
      Gives (readArgs ending (us ++ v :: rest)) es (us ++ [v]) rest
  | .statement e, us => ∀ rest, Gives (readStatement ending (us ++ rest)) e us rest
  | .body es, us => ∀ v rest, v.kind = .rightBrace →
      Gives (readBody ending (us ++ v :: rest)) es (us ++ [v]) rest
  | .program es, us => readStatements ending us = .ok es

section Readers

variable {ending : Option Span} {follow : String} {rest : List Token}

lemma gives_ret {t : Token} {us : List Token} {e : Expr} (ht : t.kind = .ret)
    (h : Gives (readExpr ending follow (us ++ rest)) e us rest) :
    Gives (readExpr ending follow (t :: us ++ rest)) (.ret e (extent t us)) (t :: us) rest := by
  rw [List.cons_append, readExpr.eq_def]
  simp only [ht]
  refine h.bind fun last _ hl => ?_
  rw [extent_of_getLast? hl]
  exact ⟨_, rfl, rfl, List.mem_getLast?_cons hl, rfl⟩

lemma gives_assign {t u : Token} {us : List Token} {e : Expr} (ht : t.kind = .identifier)
    (hu : u.kind = .assign) (h : Gives (readExpr ending follow (us ++ rest)) e us rest) :
    Gives (readExpr ending follow (t :: u :: us ++ rest))
      (.assign (.leaf t t.span) e (extent t (u :: us))) (t :: u :: us) rest := by
  rw [List.cons_append, List.cons_append, readExpr.eq_def]
  simp only [ht, hu, if_true]
  refine h.bind fun last _ hl => ?_
  rw [extent_last u hl]
  exact ⟨_, rfl, rfl, List.mem_getLast?_cons (List.mem_getLast?_cons hl), rfl⟩

lemma gives_callEmpty {t u v : Token} (ht : t.kind = .identifier) (hu : u.kind = .leftParen)
    (hv : v.kind = .rightParen) :
    Gives (readExpr ending follow ([t, u, v] ++ rest))
      (.call t.payload.display [] (extent t [u, v])) [t, u, v] rest := by
  rw [List.cons_append, List.cons_append, List.cons_append, readExpr.eq_def]
  simp only [ht, hu, if_true, reduceCtorEq, if_false]
  rw [readArgList]
  simp only [hv, if_true]
  exact ⟨_, rfl, rfl, rfl, rfl⟩

lemma gives_call {t u v : Token} {us : List Token} {es : List Expr} (ht : t.kind = .identifier)
    (hu : u.kind = .leftParen) (ih : Complete ending (.args es) us) (hne : us ≠ [])
    (hb : ¬ Begins .rightParen us) (hv : v.kind = .rightParen) :
    Gives (readExpr ending follow (t :: u :: (us ++ [v]) ++ rest))
      (.call t.payload.display es (extent t (u :: (us ++ [v])))) (t :: u :: (us ++ [v])) rest := by
  obtain ⟨w, ws, rfl⟩ := List.exists_cons_of_ne_nil hne
  have hw : ¬ w.kind = .rightParen := by rwa [begins_cons] at hb
  have hts : t :: u :: (w :: ws ++ [v]) ++ rest = t :: u :: w :: (ws ++ v :: rest) := by simp
  rw [hts, readExpr.eq_def]
  simp only [ht, hu, if_true, reduceCtorEq, if_false]
  rw [readArgList]
  simp only [hw, if_false]
  refine (ih v rest hv).bind fun last _ hl => ?_
  rw [extent_last u hl]
  exact ⟨_, rfl, rfl, List.mem_getLast?_cons (List.mem_getLast?_cons hl), rfl⟩

lemma gives_readChain {t u : Token} {us : List Token} {e : Expr} {c : Connective}
    (hu : u.kind = .operator) (hc : Connective.ofSymbol? u.payload.display = some c)
    (h : Gives (readExpr ending follow (us ++ rest)) e us rest) :
    Gives (readChain ending follow t (u :: (us ++ rest)))
      (.join c (.leaf t t.span) e (extent t (u :: us))) (t :: u :: us) rest := by
  rw [readChain]
  simp only [hu, if_true]
  split
  · rename_i hnone
    rw [hc] at hnone
    cases hnone
  · rename_i d hsome
    obtain rfl := Option.some.inj (hsome.symm.trans hc)
    refine h.bind fun last _ hl => ?_
    rw [extent_last u hl]
    exact ⟨_, rfl, rfl, List.mem_getLast?_cons (List.mem_getLast?_cons hl), rfl⟩

lemma isDefinition_join (c : Connective) (e e' : Expr) (s : Option Span) :
    (Expr.join c e e' s).isDefinition = false := by
  cases c <;> rfl

lemma gives_chain {t u : Token} {us : List Token} {e : Expr} {c : Connective}
    (ht : t.kind = .identifier ∨ t.kind = .intLiteral) (hu : u.kind = .operator)
    (hc : Connective.ofSymbol? u.payload.display = some c)
    (h : Gives (readExpr ending follow (us ++ rest)) e us rest) :
    Gives (readExpr ending follow (t :: u :: us ++ rest))
      (.join c (.leaf t t.span) e (extent t (u :: us))) (t :: u :: us) rest := by
  have hchain := gives_readChain (t := t) hu hc h
  rw [List.cons_append, List.cons_append, readExpr.eq_def]
  rcases ht with ht | ht
  · simp only [ht, hu, reduceCtorEq, if_false]
    exact hchain
  · simp only [ht]
    exact hchain

/-- An operand, behind which no operator stands, is read as it is. -/
lemma gives_chainEnd {t : Token} (hrest : ∀ u ∈ rest.head?, u.kind ≠ .operator) :
    Gives (readChain ending follow t rest) (.leaf t t.span) [t] rest := by
  rw [readChain.eq_def]
  cases rest with
  | nil => exact ⟨_, rfl, rfl, rfl, rfl⟩
  | cons u rest =>
    have hu := hrest u rfl
    simp only [hu, if_false]
    exact ⟨_, rfl, rfl, rfl, rfl⟩

lemma gives_operand {t : Token} (ht : isOperand t.kind = true)
    (hrest : Leaves (.leaf t t.span) rest.head?) :
    Gives (readExpr ending follow ([t] ++ rest)) (.leaf t t.span) [t] rest := by
  rw [List.singleton_append, readExpr.eq_def]
  cases hk : t.kind <;> rw [hk] at ht <;> cases ht
  · simp only [hk]
    exact gives_chainEnd fun u hu => by simpa [takes, hk] using hrest u hu
  · simp only [hk]
    exact ⟨_, rfl, rfl, rfl, rfl⟩
  · simp only [hk]
    exact ⟨_, rfl, rfl, rfl, rfl⟩
  · -- behind a name, the reader looks for `:=` and for arguments first
    simp only [hk]
    cases rest with
    | nil => exact ⟨_, rfl, rfl, rfl, rfl⟩
    | cons u rest =>
      have hu : u.kind ≠ .assign ∧ u.kind ≠ .leftParen ∧ u.kind ≠ .operator := by
        simpa [takes, hk, and_assoc] using hrest u rfl
      simp only [hu, if_false]
      exact gives_chainEnd fun v hv => Option.some.inj hv ▸ hu.2.2

lemma Stops.leaves (h : Stops rest) (t : Token) (s : Option Span) :
    Leaves (.leaf t s) rest.head? := by
  intro u hu
  have := h u hu
  simp [takes, this]

lemma gives_stray {t : Token} (ht : isStray t.kind = true) :
    Gives (readExpr ending follow ([t] ++ rest)) (.leaf t.asError t.span) [t] rest := by
  rw [List.singleton_append, readExpr.eq_def]
  cases hk : t.kind <;> rw [hk] at ht <;> cases ht
  all_goals
    simp only [hk]
    exact ⟨_, rfl, rfl, rfl, rfl⟩

lemma gives_define {t v : Token} {us vs : List Token} {head : Header} {es : List Expr}
    (ht : t.kind = .func) (hh : Head us head) (ih : Complete ending (.body es) vs)
    (hv : v.kind = .rightBrace) :
    Gives (readExpr ending follow (t :: (us ++ (vs ++ [v])) ++ rest))
      (.define head.name head.params es head.returnType (extent t (us ++ (vs ++ [v]))))
      (t :: (us ++ (vs ++ [v]))) rest := by
  have hts : t :: (us ++ (vs ++ [v])) ++ rest = t :: (us ++ (vs ++ v :: rest)) := by simp
  rw [hts, readExpr.eq_def]
  simp only [ht]
  rw [readDefinition]
  refine (gives_readHeader hh).bind fun _ _ _ => ?_
  refine (ih v rest hv).bind fun last _ hl => ?_
  have hlast : last ∈ (us ++ (vs ++ [v])).getLast? := List.mem_getLast?_append_of_mem_getLast? hl
  rw [extent_of_getLast? hlast]
  exact ⟨_, rfl, rfl, List.mem_getLast?_cons hlast, rfl⟩

lemma complete_lastArg {us : List Token} {e : Expr} (ih : Complete ending (.expr e) us) :
    Complete ending (.args [e]) us := by
  intro v rest hv
  rw [readArgs]
  refine (ih _ _ (.inr (stops_cons_of_eq hv (by decide)))).bind fun _ _ _ => ?_
  show Gives (if _ then _ else _) _ _ _
  rw [if_pos hv]
  exact ⟨_, rfl, rfl, List.getLast?_concat, rfl⟩

lemma complete_moreArgs {t : Token} {us vs : List Token} {e : Expr} {es : List Expr}
    (ih : Complete ending (.expr e) us) (ht : t.kind = .comma)
    (ihs : Complete ending (.args es) vs) : Complete ending (.args (e :: es)) (us ++ t :: vs) := by
  intro v rest hv
  rw [List.append_assoc, List.cons_append, readArgs]
  refine (ih _ _ (.inr (stops_cons_of_eq ht (by decide)))).bind fun _ _ _ => ?_
  show Gives (if _ then _ else if _ then _ else _) _ _ _
  rw [if_neg (by rw [ht]; decide), if_pos ht]
  refine ((ihs v rest hv).behind e).bind fun last _ hl => ⟨_, rfl, rfl, ?_, rfl⟩
  rw [List.append_assoc]
  exact List.mem_getLast?_append_of_mem_getLast? (List.mem_getLast?_cons hl)

lemma complete_definition {us : List Token} {e : Expr} (ih : Complete ending (.expr e) us)
    (hd : e.isDefinition = true) : Complete ending (.statement e) us := by
  intro rest
  rw [readStatement]
  refine (ih _ _ (.inl hd)).bind fun last _ hl => ?_
  simp only [hd, if_true]
  exact ⟨_, rfl, rfl, hl, rfl⟩

lemma complete_terminated {t : Token} {us : List Token} {e : Expr}
    (ih : Complete ending (.expr e) us) (hd : e.isDefinition = false) (ht : t.kind = .semicolon) :
    Complete ending (.statement e) (us ++ [t]) := by
  intro rest
  rw [List.append_assoc, List.singleton_append, readStatement]
  refine (ih _ _ (.inr (stops_cons_of_eq ht (by decide)))).bind fun _ _ _ => ?_
  simp only [hd, Bool.false_eq_true, if_false]
  refine ((gives_takeToken ht "semicolon").behind e).bind fun last _ hl => ⟨_, rfl, rfl, ?_, rfl⟩
  exact List.mem_getLast?_append_of_mem_getLast? hl

lemma complete_bodyMore {us vs : List Token} {e : Expr} {es : List Expr}
    (ih : Complete ending (.statement e) us) (hne : us ≠ []) (hb : ¬ Begins .rightBrace us)
    (ihs : Complete ending (.body es) vs) : Complete ending (.body (e :: es)) (us ++ vs) := by
  intro v rest hv
  rw [List.append_assoc]
  have hfirst := ih (vs ++ v :: rest)
  obtain ⟨w, ws, rfl⟩ := List.exists_cons_of_ne_nil hne
  have hw : ¬ w.kind = .rightBrace := by rwa [begins_cons] at hb
  rw [List.cons_append] at hfirst ⊢
  rw [readBody]
  simp only [hw, if_false]
  refine hfirst.bind fun _ _ _ => ?_
  refine ((ihs v rest hv).behind e).bind fun last _ hl => ⟨_, rfl, rfl, ?_, rfl⟩
  rw [List.append_assoc]
  exact List.mem_getLast?_append_of_mem_getLast? hl

lemma complete_programMore {us vs : List Token} {e : Expr} {es : List Expr}
    (ih : Complete ending (.statement e) us) (hne : us ≠ [])
    (ihs : Complete ending (.program es) vs) :
    Complete ending (.program (e :: es)) (us ++ vs) := by
  have hfirst := ih vs
  obtain ⟨w, ws, rfl⟩ := List.exists_cons_of_ne_nil hne
  rw [List.cons_append] at hfirst ⊢
  obtain ⟨⟨value, last, left, shorter⟩, hr, hvalue, -, hleft⟩ := hfirst
  obtain rfl : value = e := hvalue
  obtain rfl : left = vs := hleft
  show readStatements ending (w :: (ws ++ left)) = _
  rw [readStatements]
  show (readStatement ending (w :: (ws ++ left)) >>= fun first => do
    let more ← behind first.value (readStatements ending first.rest)
    .ok (first.value :: more)) = _
  rw [hr]
  show (behind value (readStatements ending left) >>= fun more => .ok (value :: more)) = _
  rw [show readStatements ending left = .ok es from ihs]
  rfl

end Readers

/-- What is derivable is read as it is derived. -/
theorem complete {p : Phrase} {ts : List Token} (h : Derives p ts) (ending : Option Span) :
    Complete ending p ts := by
  induction h with
  | ret ht _ ih =>
    intro follow rest hrest
    have hrest' : Stops rest := hrest.resolve_left (by simp [Expr.isDefinition])
    exact gives_ret ht (ih follow rest (.inr hrest'))
  | assign ht hu _ ih =>
    intro follow rest hrest
    have hrest' : Stops rest := hrest.resolve_left (by simp [Expr.isDefinition])
    exact gives_assign ht hu (ih follow rest (.inr hrest'))
  | callEmpty ht hu hv => exact fun _ _ _ => gives_callEmpty ht hu hv
  | call ht hu h hb hv ih => exact fun _ _ _ => gives_call ht hu ih (h.ne_nil rfl) hb hv
  | chain ht hu hc _ ih =>
    intro follow rest hrest
    have hrest' : Stops rest := hrest.resolve_left (by simp [isDefinition_join])
    exact gives_chain ht hu hc (ih follow rest (.inr hrest'))
  | @operand t ht =>
    intro follow rest hrest
    have hrest' : Stops rest := hrest.resolve_left (by simp [Expr.isDefinition])
    exact gives_operand ht (hrest'.leaves t t.span)
  | stray ht => exact fun _ _ _ => gives_stray ht
  | define ht hh _ hv ih => exact fun _ _ _ => gives_define ht hh ih hv
  | lastArg _ ih => exact complete_lastArg ih
  | moreArgs _ ht _ ih ihs => exact complete_moreArgs ih ht ihs
  | definition _ hd ih => exact complete_definition ih hd
  | terminated _ hd ht ih => exact complete_terminated ih hd ht
  | bodyEnd =>
    intro v rest hv
    rw [List.nil_append, readBody]
    simp only [hv, if_true]
    exact ⟨_, rfl, rfl, rfl, rfl⟩
  | bodyMore h hb _ ih ihs => exact complete_bodyMore ih (h.ne_nil rfl) hb ihs
  | programEnd => rw [Complete, readStatements]
  | programMore h _ ih ihs => exact complete_programMore ih (h.ne_nil rfl) ihs

/-- The tokens of an expression are read off before anything that it does not go on with. -/
lemma Derives.gives {e : Expr} {us : List Token} (h : Derives (.expr e) us) {ending : Option Span}
    {follow : String} {rest : List Token} (hrest : Leaves e rest.head?) :
    Gives (readExpr ending follow (us ++ rest)) e us rest := by
  generalize hp : Phrase.expr e = p at h
  induction h generalizing e with
  | ret ht _ ih =>
    cases hp
    exact gives_ret ht (ih hrest rfl)
  | assign ht hu _ ih =>
    cases hp
    exact gives_assign ht hu (ih hrest rfl)
  | @chain t u us e c ht hu hc _ ih =>
    cases hp
    have hright : Leaves e rest.head? := by cases c <;> exact hrest
    exact gives_chain ht hu hc (ih hright rfl)
  | callEmpty ht hu hv =>
    cases hp
    exact gives_callEmpty ht hu hv
  | call ht hu h hb hv _ =>
    cases hp
    exact gives_call ht hu (complete h ending) (h.ne_nil rfl) hb hv
  | operand ht =>
    cases hp
    exact gives_operand ht hrest
  | stray ht =>
    cases hp
    exact gives_stray ht
  | define ht hh h hv _ =>
    cases hp
    exact gives_define ht hh (complete h ending) hv
  | _ => cases hp

/-! ## Programs -/

lemma readProgram_eq {ts : List Token} (hend : Endless ts) :
    readProgram ts = readStatements none ts := by
  have hfind : ts.find? (·.kind = .eof) = none := by
    rw [List.find?_eq_none]
    intro t ht
    simpa using hend t ht
  have htake : ts.takeWhile (·.kind ≠ .eof) = ts := by
    rw [List.takeWhile_eq_self_iff]
    intro t ht
    simpa using hend t ht
  rw [readProgram, hfind, htake]
  rfl

/-- **Reading accepts exactly the grammar, and builds its one tree.**  Of tokens among which there
is no end of input, the statements that are read are those of the derivation; no tokens have two
derivations; and where there is none, reading stops at a token or at the end of the tokens, for a
reason that the tokens give. -/
theorem readProgram_decides_grammar {ts : List Token} (hend : Endless ts) :
    (∀ es, readProgram ts = .ok es ↔ Derives (.program es) ts) ∧
      (∀ es es', Derives (.program es) ts → Derives (.program es') ts → es = es') ∧
        ((¬ ∃ es, Derives (.program es) ts) → ∃ s, readProgram ts = .error s ∧ Blames ts s) := by
  have hread (es : List Expr) (h : Derives (.program es) ts) : readProgram ts = .ok es := by
    rw [readProgram_eq hend]
    exact complete h none
  have hsound : ReadsAll ts (readProgram ts) := by
    rw [readProgram_eq hend]
    exact readsAll_readStatements hend none
  refine ⟨fun es => ⟨fun h => ?_, hread es⟩, fun es es' h h' => ?_, fun hno => ?_⟩
  · rwa [h] at hsound
  · exact Except.ok.inj ((hread es h).symm.trans (hread es' h'))
  · cases hr : readProgram ts with
    | ok es =>
      rw [hr] at hsound
      exact absurd ⟨es, hsound⟩ hno
    | error s =>
      rw [hr] at hsound
      exact ⟨s, rfl, hsound⟩

/-- The tokens of `f(});`. -/
def braceCall : List Token :=
  [.ofText .identifier "f", .ofText .leftParen "(", .ofText .rightBrace "\x7d",
    .ofText .rightParen ")", .ofText .semicolon ";"]

/-- The statement that they are: a call, the argument of which is an error leaf. -/
def braceCallTree : Expr :=
  .call "f" [.leaf (.asError (.ofText .rightBrace "\x7d")) none] none

/-- There `}` closes nothing. -/
theorem readProgram_braceCall :
    Endless braceCall ∧ readProgram braceCall = .ok [braceCallTree] ∧
      ∀ es, Derives (.program es) braceCall → es = [braceCallTree] := by
  have hend : Endless braceCall := by
    intro t ht
    simp only [braceCall, List.mem_cons, List.not_mem_nil, or_false] at ht
    rcases ht with rfl | rfl | rfl | rfl | rfl <;> decide
  have hArgs : Derives (.args [.leaf (.asError (.ofText .rightBrace "\x7d")) none])
      [.ofText .rightBrace "\x7d"] := .lastArg (.stray rfl)
  have hCall : Derives (.expr braceCallTree) (.ofText .identifier "f" :: .ofText .leftParen "(" ::
      ([.ofText .rightBrace "\x7d"] ++ [.ofText .rightParen ")"])) :=
    .call (t := .ofText .identifier "f") (u := .ofText .leftParen "(")
      (v := .ofText .rightParen ")") rfl rfl hArgs (by rw [begins_cons]; decide) rfl
  have hProgram : Derives (.program [braceCallTree]) braceCall :=
    .programMore (.terminated hCall rfl rfl) .programEnd
  obtain ⟨hread, hunique, -⟩ := readProgram_decides_grammar hend
  exact ⟨hend, (hread _).2 hProgram, fun es h => hunique es _ h hProgram⟩

end Scriptlet.Grammar
