import Scriptlet.Proofs.Grammar.Derivation

/-!
# What is read is derivable

Each reader takes a first part of its tokens, and that part is a derivation of what it gives
(`Took`).  A reader that stops blames a token or the end of the tokens: something is missing there,
or an operator token holds no operator (`Blames`).  Both are shown for all readers at once, by
induction on the number of tokens, with one lemma for each reader.
-/

namespace Scriptlet.Grammar

/-! ## What a reader may come to -/

/-- The reading took a first part of the tokens, its last token among them, and that part
satisfies `p`. -/
def Took {α : Type} {ts : List Token} (p : α → List Token → Prop) (r : Reading α ts) : Prop :=
  ∃ us, ts = us ++ r.rest ∧ us.getLast? = some r.last ∧ p r.value us

/-- The stop is for a reason that the tokens give. -/
def Blames (ts : List Token) (s : Stop) : Prop :=
  (∃ what, s.error.cause = .expected what) ∨ (∃ what, s.error.cause = .unexpectedEnd what) ∨
    ∃ t ∈ ts, t.kind = .operator ∧ Connective.ofSymbol? t.payload.display = none ∧
      s.error.cause = .unknownOperator t.payload.display

/-- A reader comes to a good end or stops for a reason. -/
def Reads {α : Type} {ts : List Token} (p : α → List Token → Prop) :
    Except Stop (Reading α ts) → Prop
  | .ok r => Took p r
  | .error s => Blames ts s

section Reads

variable {α β : Type} {ts us : List Token} {p : α → List Token → Prop}

lemma Blames.mono {s : Stop} (h : Blames us s) (hs : us <:+ ts) : Blames ts s := by
  rcases h with h | h | ⟨t, ht, h⟩
  · exact .inl h
  · exact .inr (.inl h)
  · exact .inr (.inr ⟨t, hs.mem ht, h⟩)

lemma blames_missing (ending : Option Span) (what : String) (ts us : List Token) :
    Blames us (missing ending what ts) := by
  cases ts with
  | nil => exact .inr (.inl ⟨what, rfl⟩)
  | cons t ts => exact .inl ⟨what, rfl⟩

lemma Took.suffix {r : Reading α ts} (h : Took p r) : r.rest <:+ ts := by
  obtain ⟨us, hs, -, -⟩ := h
  exact ⟨us, hs.symm⟩

lemma Took.reads {r : Reading α ts} (h : Took p r) : Reads p (.ok r) := h

lemma Reads.took {r : Reading α ts} (h : Reads p (.ok r)) : Took p r := h

lemma Reads.imp {q : α → List Token → Prop} {x : Except Stop (Reading α ts)} (hx : Reads p x)
    (h : ∀ a us, us <+: ts → p a us → q a us) : Reads q x := by
  cases x with
  | error s => exact hx
  | ok r =>
    obtain ⟨us, hs, hl, hp⟩ := hx
    exact ⟨us, hs, hl, h r.value us ⟨r.rest, hs.symm⟩ hp⟩

/-- Going on behind a reading. -/
lemma Reads.bind {γ : Type} {x : Except Stop (Reading α us)} {q : γ → List Token → Prop}
    {f : Reading α us → Except Stop (Reading γ ts)} (hx : Reads p x) (hs : us <:+ ts)
    (hf : ∀ r, x = .ok r → Took p r → Reads q (f r)) : Reads q (x >>= f) := by
  cases x with
  | error s => exact Blames.mono hx hs
  | ok r => exact hf r rfl hx

lemma reads_missing (ending : Option Span) (what : String) (vs : List Token) :
    Reads p (.error (missing ending what vs) : Except Stop (Reading α ts)) :=
  blames_missing ending what vs ts

lemma reads_takeToken (ending : Option Span) (kind : Token.Kind) (what : String)
    (ts : List Token) :
    Reads (fun t us => t.kind = kind ∧ us = [t]) (takeToken ending kind what ts) := by
  unfold takeToken
  split
  · exact reads_missing ending what []
  · split
    · rename_i t rest h
      exact ⟨[t], rfl, rfl, h, rfl⟩
    · exact reads_missing ending what _

lemma took_one {t : Token} {value : α} (h : p value [t]) : Took p (Reading.one t ts value) :=
  ⟨[t], rfl, rfl, h⟩

/-- A reading that goes on, behind a first part, with what another reading took. -/
lemma took_append {q : β → List Token → Prop} {vs : List Token} {r : Reading β us}
    (hs : ts = vs ++ us) (hr : Took q r) {value : α} {shorter : r.rest.length < ts.length}
    (hp : ∀ ws, q r.value ws → p value (vs ++ ws)) :
    Took p (⟨value, r.last, r.rest, shorter⟩ : Reading α ts) := by
  obtain ⟨ws, hw, hl, hq⟩ := hr
  refine ⟨vs ++ ws, ?_, List.mem_getLast?_append_of_mem_getLast? hl, hp ws hq⟩
  rw [List.append_assoc]
  exact hs.trans (congrArg (vs ++ ·) hw)

lemma Took.cons {q : β → List Token → Prop} {r : Reading β ts} (h : Took q r) (t : Token)
    {f : β → Token → α}
    (hf : ∀ us, us.getLast? = some r.last → q r.value us → p (f r.value r.last) (t :: us)) :
    Took p (r.cons t f) := by
  obtain ⟨us, hs, hl, hq⟩ := h
  exact ⟨t :: us, congrArg (t :: ·) hs, List.mem_getLast?_cons hl, hf us hl hq⟩

lemma Took.cons_cons {q : β → List Token → Prop} {r : Reading β ts} (h : Took q r) (t u : Token)
    {f : β → Token → α} (hf : ∀ us, us.getLast? = some r.last → q r.value us →
      p (f r.value r.last) (t :: u :: us)) :
    Took p ((r.cons u Prod.mk).cons t fun x _ => f x.1 x.2) := by
  refine (h.cons u (p := fun (x : β × Token) us => ∃ vs, us = u :: vs ∧
    vs.getLast? = some r.last ∧ q r.value vs ∧ x = (r.value, r.last)) ?_).cons t ?_
  · exact fun us hl hq => ⟨us, rfl, hl, hq, rfl⟩
  · rintro us - ⟨vs, rfl, hl, hq, -⟩
    exact hf vs hl hq

lemma Took.trans {γ : Type} {q : β → List Token → Prop} {q' : γ → List Token → Prop}
    {r : Reading β ts} (h : Took q r) {s : Reading γ r.rest} (h' : Took q' s) {f : β → γ → α}
    (hf : ∀ us vs, us.getLast? = some r.last → vs.getLast? = some s.last → q r.value us →
      q' s.value vs → p (f r.value s.value) (us ++ vs)) : Took p (r.trans s f) := by
  obtain ⟨us, hs, hl, hq⟩ := h
  obtain ⟨vs, hs', hl', hq'⟩ := h'
  refine ⟨us ++ vs, ?_, List.mem_getLast?_append_of_mem_getLast? hl', hf us vs hl hl' hq hq'⟩
  rw [List.append_assoc]
  exact hs.trans (congrArg (us ++ ·) hs')

end Reads

/-- Tokens that end with one of a given kind, which is not part of what they mean. -/
def Closed {α : Type} (k : Token.Kind) (p : α → List Token → Prop) (a : α) (ts : List Token) :
    Prop :=
  ∃ us t, ts = us ++ [t] ∧ t.kind = k ∧ p a us

/-! ## Headers of definitions -/

lemma reads_readParams (ending : Option Span) (n : Nat) (ts : List Token) :
    Reads (Closed .rightParen fun ps us => Params n us ps) (readParams ending n ts) := by
  induction hlen : ts.length using Nat.strongRecOn generalizing n ts with
  | ind k ih =>
    rw [readParams]
    refine Reads.bind (reads_takeToken ending .typeName "type" ts) List.suffix_rfl
      fun type _ hType => ?_
    refine Reads.bind (reads_takeToken ending .identifier "identifier" type.rest) hType.suffix
      fun name _ hName => ?_
    -- the type and the name of a parameter, whatever stands behind them
    obtain ⟨us, hts, -, a, b, ha, hb, rfl, hp⟩ :
        Took (fun p us => ∃ a b : Token, a.kind = .typeName ∧ b.kind = .identifier ∧
          us = [a, b] ∧ p = .ofTokens n a b) (type.trans name (Param.ofTokens n)) := by
      refine hType.trans hName fun us vs _ _ ht hn => ?_
      exact ⟨_, _, ht.1, hn.1, by rw [ht.2, hn.2]; rfl, rfl⟩
    dsimp only
    split
    · exact reads_missing ending _ _
    · rename_i t rest hnext
      rw [hnext] at hts
      split
      · rename_i ht
        refine ⟨[a, b, t], hts, rfl, [a, b], t, rfl, ht, ?_⟩
        rw [hp]
        exact .last ha hb
      · split
        · rename_i ht
          have hrest : rest <:+ ts := ⟨[a, b, t], by simp [hts]⟩
          refine Reads.bind (ih rest.length ?_ (n + 1) rest rfl) hrest fun more _ hmore => ?_
          · simp only [← hlen, hts, List.length_append, List.length_cons]
            omega
          · have hsplit : ts = [a, b, t] ++ rest := hts
            refine took_append hsplit hmore fun ws hws => ?_
            obtain ⟨xs, v, rfl, hv, hps⟩ := hws
            refine ⟨a :: b :: t :: xs, v, rfl, hv, ?_⟩
            rw [hp]
            exact .more ha hb ht hps
        · exact reads_missing ending _ _

lemma reads_readParamList (ending : Option Span) (ts : List Token) :
    Reads (Closed .rightParen fun ps us => ParamList us ps) (readParamList ending ts) := by
  have params (us : List Token) : Reads (Closed .rightParen fun ps us => ParamList us ps)
      (readParams ending 0 us) := by
    refine (reads_readParams ending 0 us).imp ?_
    rintro ps us - ⟨vs, v, hs, hv, h⟩
    exact ⟨vs, v, hs, hv, .some h⟩
  unfold readParamList
  split
  · exact params []
  · rename_i t rest
    split
    · rename_i ht
      exact took_one ⟨[], t, rfl, ht, .none⟩
    · exact params (t :: rest)

lemma reads_readReturnClause (ending : Option Span) (ts : List Token) :
    Reads (Closed .leftBrace fun r us => ReturnClause us r) (readReturnClause ending ts) := by
  unfold readReturnClause
  split
  · exact reads_missing ending _ []
  · rename_i t rest
    split
    · rename_i ha
      have hrest : rest <:+ t :: rest := List.suffix_cons t rest
      refine Reads.bind (reads_takeToken ending .typeName "type" rest) hrest fun type _ hType => ?_
      refine Reads.bind (reads_takeToken ending .leftBrace "brace" type.rest)
        (hType.suffix.trans hrest) fun brace _ hBrace => ?_
      refine (hType.trans (p := Closed .leftBrace fun r us =>
        ∃ a : Token, us = [a] ∧ a.kind = .typeName ∧ r = a.payload.display) hBrace ?_).cons t ?_
      · rintro us vs - - ⟨ht, rfl⟩ ⟨hb, rfl⟩
        exact ⟨[_], _, rfl, hb, _, rfl, ht, rfl⟩
      · rintro us - ⟨_, b, rfl, hb, a, rfl, ht, hr⟩
        refine ⟨[t, a], b, rfl, hb, ?_⟩
        rw [hr]
        exact .some ha ht
    · split
      · rename_i hb
        exact took_one ⟨[], t, rfl, hb, .none⟩
      · exact reads_missing ending _ _

lemma reads_readHeader (ending : Option Span) (ts : List Token) :
    Reads (fun h us => Head us h) (readHeader ending ts) := by
  unfold readHeader
  refine Reads.bind (reads_takeToken ending .identifier "identifier" ts) List.suffix_rfl
    fun name _ hName => ?_
  refine Reads.bind (reads_takeToken ending .leftParen "'('" name.rest) hName.suffix
    fun paren _ hParen => ?_
  have sParen := hParen.suffix.trans hName.suffix
  refine Reads.bind (reads_readParamList ending paren.rest) sParen fun params _ hParams => ?_
  refine Reads.bind (reads_readReturnClause ending params.rest) (hParams.suffix.trans sParen)
    fun returnType _ hReturn => ?_
  have rest : Took (fun (pr : List Param × String) us => ∃ vs r xs b,
      us = vs ++ r :: (xs ++ [b]) ∧ r.kind = .rightParen ∧ b.kind = .leftBrace ∧
        ParamList vs pr.1 ∧ ReturnClause xs pr.2) (params.trans returnType Prod.mk) := by
    refine hParams.trans hReturn ?_
    rintro us vs - - ⟨ps, r, rfl, hr, hps⟩ ⟨xs, b, rfl, hb, hxs⟩
    exact ⟨ps, r, xs, b, by simp, hr, hb, hps, hxs⟩
  have opened : Took (fun (pr : List Param × String) us => ∃ l vs r xs b,
      us = l :: (vs ++ r :: (xs ++ [b])) ∧ l.kind = .leftParen ∧ r.kind = .rightParen ∧
        b.kind = .leftBrace ∧ ParamList vs pr.1 ∧ ReturnClause xs pr.2)
      (paren.trans (params.trans returnType Prod.mk) fun _ p => p) := by
    refine hParen.trans rest ?_
    rintro us vs - - ⟨hl, rfl⟩ ⟨ps, r, xs, b, rfl, hr, hb, hps, hxs⟩
    exact ⟨_, ps, r, xs, b, rfl, hl, hr, hb, hps, hxs⟩
  show Took (fun h us => Head us h) _
  refine hName.trans opened ?_
  rintro us vs - - ⟨hn, rfl⟩ ⟨l, ps, r, xs, b, rfl, hl, hr, hb, hps, hxs⟩
  exact .mk hn hl hps hr hxs hb

/-! ## Expressions -/

/-- The tokens hold no end of input. -/
def Endless (ts : List Token) : Prop := ∀ t ∈ ts, t.kind ≠ .eof

lemma Endless.mono {ts us : List Token} (h : Endless ts) (hs : us <:+ ts) : Endless us :=
  fun t ht => h t (hs.mem ht)

/-- From these tokens, the readers that other readers call read what is derivable. -/
structure Sound (ts : List Token) : Prop where
  expr : ∀ ending follow, Reads (fun e us => Derives (.expr e) us) (readExpr ending follow ts)
  args : ∀ ending, Reads (Closed .rightParen fun es us => Derives (.args es) us)
    (readArgs ending ts)
  body : ∀ ending, Reads (Closed .rightBrace fun es us => Derives (.body es) us)
    (readBody ending ts)

section Readers

variable {ts : List Token}

lemma reads_readChain {t : Token} (ht : t.kind = .identifier ∨ t.kind = .intLiteral)
    (ih : ∀ u us, ts = u :: us → Sound us) (ending : Option Span) (follow : String) :
    Reads (fun e us => Derives (.expr e) us) (readChain ending follow t ts) := by
  have operand : Derives (.expr (.leaf t t.span)) [t] := by
    refine .operand ?_
    rcases ht with ht | ht <;> rw [ht] <;> rfl
  unfold readChain
  split
  · exact took_one operand
  · rename_i u rest
    split
    · rename_i hu
      split
      · rename_i hc
        exact .inr (.inr ⟨u, by simp, hu, hc, rfl⟩)
      · rename_i c hc
        refine Reads.bind ((ih u rest rfl).expr ending follow) ⟨[t, u], rfl⟩
          fun right _ hRight => ?_
        refine (hRight.cons_cons t u (f := fun e last =>
          Expr.join c (.leaf t t.span) e (spanOf t last)) fun us hl h => ?_).reads
        rw [← extent_last u hl]
        exact .chain ht hu hc h
    · exact took_one operand

/-- The tokens are arguments, if there are any, and what starts them does not close them. -/
def Arguments (es : List Expr) (us : List Token) : Prop :=
  us = [] ∧ es = [] ∨ Derives (.args es) us ∧ ¬ Begins .rightParen us

lemma not_begins_of_prefix {k : Token.Kind} {t : Token} {rest us : List Token} (h : us ≠ [])
    (hus : us <+: t :: rest) (ht : t.kind ≠ k) : ¬ Begins k us := by
  obtain ⟨u, us, rfl⟩ := List.exists_cons_of_ne_nil h
  obtain ⟨rfl, -⟩ := List.cons_prefix_cons.1 hus
  rwa [begins_cons]

lemma reads_readArgList (ending : Option Span)
    (h : Reads (Closed .rightParen fun es us => Derives (.args es) us) (readArgs ending ts)) :
    Reads (Closed .rightParen Arguments) (readArgList ending ts) := by
  cases ts with
  | nil =>
    rw [readArgList]
    refine h.imp fun es us hus hclosed => ?_
    obtain ⟨vs, v, hs, -, -⟩ := hclosed
    -- a closing parenthesis is not read off no tokens
    rw [List.prefix_nil.1 hus] at hs
    cases vs <;> cases hs
  | cons t rest =>
    rw [readArgList]
    split
    · rename_i ht
      exact took_one ⟨[], t, rfl, ht, .inl ⟨rfl, rfl⟩⟩
    · rename_i ht
      refine h.imp fun es us hus hclosed => ?_
      obtain ⟨vs, v, hs, hv, hvs⟩ := hclosed
      refine ⟨vs, v, hs, hv, .inr ⟨hvs, ?_⟩⟩
      have hvu : vs <+: us := ⟨[v], hs.symm⟩
      exact not_begins_of_prefix (hvs.ne_nil rfl) (hvu.trans hus) ht

lemma reads_behind {α : Type} {p : α → List Token → Prop} {us : List Token} {e : Expr}
    {x : Except Stop (Reading α us)} (hx : Reads p x) : Reads p (behind e x) := by
  cases x with
  | error s => exact hx
  | ok r => exact hx

lemma reads_readArgs (ending : Option Span)
    (hExpr : ∀ follow, Reads (fun e us => Derives (.expr e) us) (readExpr ending follow ts))
    (ih : ∀ us, us <:+ ts → us.length < ts.length → Sound us) :
    Reads (Closed .rightParen fun es us => Derives (.args es) us) (readArgs ending ts) := by
  rw [readArgs]
  refine Reads.bind (hExpr _) List.suffix_rfl fun arg _ hArg => ?_
  obtain ⟨us, hts, -, hus⟩ := hArg
  split
  · exact reads_behind (reads_missing ending _ [])
  · rename_i t rest hnext
    rw [hnext] at hts
    split
    · rename_i ht
      exact ⟨us ++ [t], by simp [hts], by simp, us, t, rfl, ht, .lastArg hus⟩
    · split
      · rename_i ht
        have hrest : rest <:+ ts := ⟨us ++ [t], by simp [hts]⟩
        have shorter : rest.length < ts.length := by
          rw [hts, List.length_append, List.length_cons]
          omega
        refine Reads.bind (reads_behind ((ih rest hrest shorter).args ending)) hrest
          fun more _ hMore => ?_
        have hsplit : ts = (us ++ [t]) ++ rest := by simp [hts]
        refine took_append hsplit hMore ?_
        rintro ws ⟨vs, v, rfl, hv, hvs⟩
        exact ⟨us ++ t :: vs, v, by simp, hv, .moreArgs hus ht hvs⟩
      · exact reads_behind (reads_missing ending _ _)

lemma reads_readDefinition {t : Token} (ht : t.kind = .func) (ending : Option Span)
    (ih : ∀ us, us <:+ ts → Sound us) :
    Reads (fun e us => Derives (.expr e) us) (readDefinition ending t ts) := by
  rw [readDefinition]
  have hts : ts <:+ t :: ts := List.suffix_cons t ts
  refine Reads.bind (reads_readHeader ending ts) hts fun header _ hHeader => ?_
  refine Reads.bind ((ih header.rest hHeader.suffix).body ending) (hHeader.suffix.trans hts)
    fun body _ hBody => ?_
  obtain ⟨us, hus, -, hHead⟩ := hHeader
  obtain ⟨ws, hws, hl, vs, v, rfl, hv, hvs⟩ := hBody
  have hlast : body.last ∈ (us ++ (vs ++ [v])).getLast? :=
    List.mem_getLast?_append_of_mem_getLast? hl
  refine ⟨t :: (us ++ (vs ++ [v])), ?_, List.mem_getLast?_cons hlast, ?_⟩
  · show t :: ts = t :: (us ++ (vs ++ [v])) ++ body.rest
    rw [List.cons_append, List.append_assoc, ← hws, ← hus]
  · show Derives (.expr (.define _ _ _ _ (spanOf t body.last))) _
    rw [← extent_of_getLast? hlast]
    exact .define ht hHead hvs hv

lemma reads_readExpr (hend : Endless ts)
    (ih : ∀ us, us <:+ ts → us.length < ts.length → Sound us) (ending : Option Span)
    (follow : String) : Reads (fun e us => Derives (.expr e) us) (readExpr ending follow ts) := by
  cases ts with
  | nil =>
    rw [readExpr]
    exact reads_missing ending follow []
  | cons t rest =>
    have rest_lt : rest.length < (t :: rest).length := Nat.lt_succ_self _
    have ih' {u : Token} {us : List Token} (h : rest = u :: us) : Sound us := by
      refine ih us ⟨[t, u], by rw [h]; rfl⟩ ?_
      rw [h, List.length_cons, List.length_cons]
      omega
    rw [readExpr.eq_def]
    dsimp only
    split
    · rename_i ht
      refine Reads.bind ((ih rest (List.suffix_cons t rest) rest_lt).expr ending follow)
        (List.suffix_cons t rest) fun inner _ hInner => ?_
      refine (hInner.cons t fun us hl h => ?_).reads
      rw [← extent_of_getLast? hl]
      exact .ret ht h
    · rename_i ht
      split
      · exact took_one (Derives.operand (by rw [ht]; rfl))
      · rename_i u rest
        split
        · rename_i hu
          refine Reads.bind ((ih' rfl).expr ending follow) ⟨[t, u], rfl⟩ fun value _ hValue => ?_
          refine (hValue.cons_cons t u (f := fun e last =>
            Expr.assign (.leaf t t.span) e (spanOf t last)) fun us hl h => ?_).reads
          rw [← extent_last u hl]
          exact .assign ht hu h
        · split
          · rename_i hu
            refine Reads.bind (reads_readArgList ending ((ih' rfl).args ending)) ⟨[t, u], rfl⟩
              fun args _ hArgs => ?_
            refine (hArgs.cons_cons t u (f := fun es last =>
              Expr.call t.payload.display es (spanOf t last)) fun us hl h => ?_).reads
            rw [← extent_last u hl]
            obtain ⟨vs, v, rfl, hv, ⟨rfl, hes⟩ | ⟨hvs, hb⟩⟩ := h
            · rw [hes]
              exact .callEmpty ht hu hv
            · exact .call ht hu hvs hb hv
          · exact reads_readChain (.inl ht) (fun _ _ h => ih' h) ending follow
    · rename_i ht
      exact reads_readChain (.inr ht) (fun _ _ h => ih' h) ending follow
    · rename_i ht
      exact took_one (Derives.operand (by rw [ht]; rfl))
    · rename_i ht
      exact took_one (Derives.operand (by rw [ht]; rfl))
    · rename_i ht
      exact reads_readDefinition ht ending fun us hus =>
        ih us (hus.trans (List.suffix_cons t rest)) (Nat.lt_succ_of_le hus.length_le)
    · -- whatever other kinds there are, but for the end of the input
      have := hend t (by simp)
      refine took_one (Derives.stray ?_)
      cases hk : t.kind <;> simp_all [isStray]

lemma reads_readStatement (ending : Option Span)
    (h : Reads (fun e us => Derives (.expr e) us) (readExpr ending "semicolon" ts)) :
    Reads (fun e us => Derives (.statement e) us) (readStatement ending ts) := by
  rw [readStatement]
  refine Reads.bind h List.suffix_rfl fun e _ hExpr => ?_
  split
  · rename_i hd
    obtain ⟨us, hs, hl, hus⟩ := hExpr
    exact ⟨us, hs, hl, .definition hus hd⟩
  · rename_i hd
    refine Reads.bind (reads_behind (reads_takeToken ending .semicolon "semicolon" e.rest))
      hExpr.suffix fun semicolon _ hSemicolon => ?_
    refine (hExpr.trans hSemicolon ?_).reads
    rintro us vs - - hus ⟨ht, rfl⟩
    exact .terminated hus (by simpa using hd) ht

lemma reads_readBody (ending : Option Span)
    (hStatement : Reads (fun e us => Derives (.statement e) us) (readStatement ending ts))
    (ih : ∀ us, us <:+ ts → us.length < ts.length → Sound us) :
    Reads (Closed .rightBrace fun es us => Derives (.body es) us) (readBody ending ts) := by
  cases ts with
  | nil =>
    rw [readBody]
    exact reads_missing ending _ []
  | cons t rest =>
    rw [readBody]
    split
    · rename_i ht
      exact took_one ⟨[], t, rfl, ht, .bodyEnd⟩
    · rename_i ht
      -- the first statement begins with the token that is no closing brace
      have hStatement' : Reads (fun e us => Derives (.statement e) us ∧ ¬ Begins .rightBrace us)
          (readStatement ending (t :: rest)) :=
        hStatement.imp fun _ us hus h => ⟨h, not_begins_of_prefix (h.ne_nil rfl) hus ht⟩
      refine Reads.bind hStatement' List.suffix_rfl fun first _ hFirst => ?_
      have onward := (ih first.rest hFirst.suffix first.shorter).body ending
      refine Reads.bind (reads_behind onward) hFirst.suffix fun more _ hMore => ?_
      refine (hFirst.trans hMore ?_).reads
      rintro us vs - - ⟨hd, hb⟩ ⟨ws, v, rfl, hv, hws⟩
      exact ⟨us ++ ws, v, by simp, hv, .bodyMore hd hb hws⟩

/-- What any reader reads is derivable. -/
theorem sound (hend : Endless ts) : Sound ts := by
  induction hlen : ts.length using Nat.strongRecOn generalizing ts with
  | ind n ih =>
    subst hlen
    have ih' (us : List Token) (hs : us <:+ ts) (hlt : us.length < ts.length) : Sound us :=
      ih us.length hlt (hend.mono hs) rfl
    -- arguments and bodies begin with an expression, which takes as many tokens
    have hExpr := reads_readExpr hend ih'
    refine ⟨hExpr, fun ending => reads_readArgs ending (hExpr ending) ih', fun ending => ?_⟩
    exact reads_readBody ending (reads_readStatement ending (hExpr ending _)) ih'

/-- The statements are derivable from all of the tokens, or the stop has a reason. -/
def ReadsAll (ts : List Token) : Except Stop (List Expr) → Prop
  | .ok es => Derives (.program es) ts
  | .error s => Blames ts s

/-- What the statements of a program are read as is derivable. -/
theorem readsAll_readStatements (hend : Endless ts) (ending : Option Span) :
    ReadsAll ts (readStatements ending ts) := by
  induction hlen : ts.length using Nat.strongRecOn generalizing ts with
  | ind n ih =>
    subst hlen
    rw [readStatements.eq_def]
    cases ts with
    | nil => exact .programEnd
    | cons t rest =>
      have hStatement := reads_readStatement ending ((sound hend).expr ending _)
      dsimp only
      cases hFirst : readStatement ending (t :: rest) with
      | error s =>
        rw [hFirst] at hStatement
        exact hStatement
      | ok first =>
        rw [hFirst] at hStatement
        have hs := hStatement.took.suffix
        obtain ⟨us, hus, -, hd⟩ := hStatement.took
        have onward := ih first.rest.length first.shorter (hend.mono hs) rfl
        show ReadsAll (t :: rest)
          (behind first.value (readStatements ending first.rest) >>= fun more =>
            .ok (first.value :: more))
        cases hMore : readStatements ending first.rest with
        | error s =>
          rw [hMore] at onward
          exact Blames.mono onward hs
        | ok more =>
          rw [hMore] at onward
          obtain ⟨value, last, left, shorter⟩ := first
          show Derives (.program (value :: more)) (t :: rest)
          rw [hus]
          exact .programMore hd onward

end Readers

end Scriptlet.Grammar
