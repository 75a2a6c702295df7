import Scriptlet.Proofs.Grammar.Stuck

/-!
# Readers stop where tokens are stuck

Whoever reads the tokens of a stuck phrase stops before the next one, for the reason that it is
stuck for, whatever stands behind that (`Stuck.fails`).
-/

namespace Scriptlet.Grammar

open Goal

/-- What a stop points at: the token that cannot stand there, or the end of the tokens. -/
def blamed (ending : Option Span) : Option Token → Option Span
  | none => ending
  | some t => t.span

/-- The reader stops before `rest`, because of `c`. -/
def Fails {α : Type} (ending : Option Span) (x : Except Stop α) (c : Cause) (rest : List Token) :
    Prop :=
  ∃ read, x = .error ⟨.located c (blamed ending rest.head?), rest, read⟩

section Fails

variable {α β : Type} {ending : Option Span} {c : Cause} {rest : List Token}

lemma Fails.bind {x : Except Stop α} (h : Fails ending x c rest) (f : α → Except Stop β) :
    Fails ending (x >>= f) c rest := by
  obtain ⟨read, rfl⟩ := h
  exact ⟨read, rfl⟩

lemma Fails.behind {x : Except Stop α} (h : Fails ending x c rest) (e : Expr) :
    Fails ending (behind e x) c rest := by
  obtain ⟨read, rfl⟩ := h
  exact ⟨e.headings ++ read, rfl⟩

lemma Gives.bind_fails {ts us rest' : List Token} {a : α} {x : Except Stop (Reading α ts)}
    (hx : Gives x a us rest') {f : Reading α ts → Except Stop β}
    (hf : ∀ last shorter, Fails ending (f ⟨a, last, rest', shorter⟩) c rest) :
    Fails ending (x >>= f) c rest := by
  obtain ⟨⟨value, last, left, shorter⟩, rfl, rfl, -, rfl⟩ := hx
  exact hf last shorter

lemma fails_missing (what : String) :
    Fails ending (.error (missing ending what rest) : Except Stop α) (lacks what rest.head?)
      rest := by
  cases rest <;> exact ⟨[], rfl⟩

lemma fails_takeToken {kind : Token.Kind} {what : String} (h : Misses kind rest.head?) :
    Fails ending (takeToken ending kind what rest) (lacks what rest.head?) rest := by
  cases rest with
  | nil => exact fails_missing what
  | cons t rest =>
    have ht : t.kind ≠ kind := h t rfl
    unfold takeToken
    simp only [ht, if_false]
    exact fails_missing what

end Fails

/-! ## Stuck tokens are not read -/

section Headers

variable {ending : Option Span} {ts rest : List Token} {c : Cause}

/-- The first token is seen also where no other is. -/
lemma begins_peek {k : Token.Kind} :
    Begins k (ts ++ rest.head?.toList) ↔ Begins k (ts ++ rest) := by
  cases ts with
  | nil => cases rest <;> simp [Begins]
  | cons t ts => simp [Begins]

lemma ParamsStuck.fails (h : ParamsStuck ts rest.head? c) (n : Nat) :
    Fails ending (readParams ending n (ts ++ rest)) c rest := by
  generalize hnext : rest.head? = next at h
  induction h generalizing n with
  | type h =>
    subst hnext
    rw [readParams]
    exact (fails_takeToken h).bind _
  | name ht h =>
    subst hnext
    rw [readParams]
    refine (gives_takeToken ht "type").bind_fails fun _ _ => ?_
    exact (fails_takeToken h).bind _
  | separator ht hn h h' =>
    subst hnext
    rw [readParams]
    refine (gives_takeToken ht "type").bind_fails fun _ _ => ?_
    refine (gives_takeToken hn "identifier").bind_fails fun _ _ => ?_
    cases rest with
    | nil => exact fails_missing _
    | cons t rest =>
      have ht : t.kind ≠ .rightParen := h t rfl
      have ht' : t.kind ≠ .comma := h' t rfl
      show Fails ending (if _ then _ else if _ then _ else _) _ _
      rw [if_neg ht, if_neg ht']
      exact fails_missing _
  | more ht hn hc _ ih =>
    rw [readParams]
    refine (gives_takeToken ht "type").bind_fails fun _ _ => ?_
    refine (gives_takeToken hn "identifier").bind_fails fun _ _ => ?_
    show Fails ending (if _ then _ else if _ then _ else _) _ _
    rw [if_neg (by rw [hc]; decide), if_pos hc]
    exact (ih (n + 1) hnext).bind _

lemma readParamList_eq (h : ¬ Begins .rightParen ts) :
    readParamList ending ts = readParams ending 0 ts := by
  cases ts with
  | nil => rfl
  | cons t ts =>
    rw [begins_cons] at h
    exact if_neg h

lemma ReturnStuck.fails (h : ReturnStuck ts rest.head? c) :
    Fails ending (readReturnClause ending (ts ++ rest)) c rest := by
  unfold readReturnClause
  generalize hnext : rest.head? = next at h
  cases h with
  | clause h h' =>
    subst hnext
    cases rest with
    | nil => exact fails_missing _
    | cons t rest =>
      have ht : t.kind ≠ .arrow := h t rfl
      have ht' : t.kind ≠ .leftBrace := h' t rfl
      show Fails ending (if _ then _ else if _ then _ else _) _ _
      rw [if_neg ht, if_neg ht']
      exact fails_missing _
  | type ha h =>
    subst hnext
    show Fails ending (if _ then _ else if _ then _ else _) _ _
    rw [if_pos ha]
    exact (fails_takeToken h).bind _
  | brace ha ht h =>
    subst hnext
    show Fails ending (if _ then _ else if _ then _ else _) _ _
    rw [if_pos ha]
    refine (gives_takeToken ht "type").bind_fails fun _ _ => ?_
    exact (fails_takeToken h).bind _

lemma HeadStuck.fails (h : HeadStuck ts rest.head? c) :
    Fails ending (readHeader ending (ts ++ rest)) c rest := by
  unfold readHeader
  generalize hnext : rest.head? = next at h
  cases h with
  | name h =>
    subst hnext
    exact (fails_takeToken h).bind _
  | paren hn h =>
    subst hnext
    refine (gives_takeToken hn "identifier").bind_fails fun _ _ => ?_
    exact (fails_takeToken h).bind _
  | params hn hl h hb =>
    subst hnext
    refine (gives_takeToken hn "identifier").bind_fails fun _ _ => ?_
    refine (gives_takeToken hl "'('").bind_fails fun _ _ => ?_
    rw [begins_peek] at hb
    have hparams : Fails ending (readParamList ending _) c rest :=
      readParamList_eq hb ▸ h.fails 0
    exact hparams.bind _
  | @returnType name left right ts us _ _ _ hn hl hp hr h =>
    subst hnext
    have hsplit : name :: left :: (ts ++ right :: us) ++ rest =
        name :: left :: (ts ++ right :: (us ++ rest)) := by simp
    rw [hsplit]
    refine (gives_takeToken hn "identifier").bind_fails fun _ _ => ?_
    refine (gives_takeToken hl "'('").bind_fails fun _ _ => ?_
    refine (gives_readParamList hp hr).bind_fails fun _ _ => ?_
    exact h.fails.bind _

end Headers

/-- What is read for the goal stops before `rest`. -/
def Goal.Fails (ending : Option Span) : Goal → List Token → Cause → List Token → Prop
  | expr follow, ts, c, rest => Grammar.Fails ending (readExpr ending follow ts) c rest
  | args, ts, c, rest => Grammar.Fails ending (readArgs ending ts) c rest
  | statement, ts, c, rest => Grammar.Fails ending (readStatement ending ts) c rest
  | body, ts, c, rest => Grammar.Fails ending (readBody ending ts) c rest
  | program, ts, c, rest => Grammar.Fails ending (readStatements ending ts) c rest

section Readers

variable {ending : Option Span} {ts rest : List Token} {c : Cause}

lemma readArgList_eq (h : ¬ Begins .rightParen ts) :
    readArgList ending ts = readArgs ending ts := by
  cases ts with
  | nil => rw [readArgList]
  | cons t ts =>
    rw [begins_cons] at h
    rw [readArgList, if_neg h]

lemma readBody_eq (hne : ts ≠ []) (h : ¬ Begins .rightBrace ts) :
    readBody ending ts = (do
      let first ← readStatement ending ts
      let more ← behind first.value (readBody ending first.rest)
      .ok (first.trans more (· :: ·))) := by
  obtain ⟨t, ts, rfl⟩ := List.exists_cons_of_ne_nil hne
  rw [begins_cons] at h
  rw [readBody, if_neg h]

lemma readStatements_eq (hne : ts ≠ []) :
    readStatements ending ts = (do
      let first ← readStatement ending ts
      let more ← behind first.value (readStatements ending first.rest)
      .ok (first.value :: more)) := by
  obtain ⟨t, ts, rfl⟩ := List.exists_cons_of_ne_nil hne
  rw [readStatements]

lemma peek_eq_nil : ts ++ rest.head?.toList = [] ↔ ts ++ rest = [] := by
  cases rest <;> simp

/-- **Reading stops where tokens are stuck**, whatever stands behind the next one. -/
theorem Stuck.fails {g : Goal} {next : Option Token} (h : Stuck g ts next c) (ending : Option Span)
    (hnext : rest.head? = next) : g.Fails ending (ts ++ rest) c rest := by
  induction h with
  | exprEnd =>
    obtain rfl := List.head?_eq_none_iff.1 hnext
    show Fails ending (readExpr ending _ []) _ _
    rw [readExpr]
    exact fails_missing _
  | @ret t ts _ _ follow ht _ ih =>
    show Fails ending (readExpr ending follow (t :: (ts ++ rest))) _ _
    rw [readExpr.eq_def]
    simp only [ht]
    exact Fails.bind (ih hnext) _
  | @assign t u ts _ _ follow ht hu _ ih =>
    show Fails ending (readExpr ending follow (t :: u :: (ts ++ rest))) _ _
    rw [readExpr.eq_def]
    simp only [ht, hu, if_true]
    exact Fails.bind (ih hnext) _
  | @call t u ts _ _ follow ht hu _ hb ih =>
    subst hnext
    rw [begins_peek] at hb
    show Fails ending (readExpr ending follow (t :: u :: (ts ++ rest))) _ _
    rw [readExpr.eq_def]
    simp only [ht, hu, if_true, reduceCtorEq, if_false]
    rw [readArgList_eq hb]
    exact Fails.bind (ih rfl) _
  | @unknown t u follow ht hu hc =>
    obtain ⟨rest, rfl⟩ : ∃ us, rest = u :: us := List.head?_eq_some_iff.1 hnext
    have hchain : Fails ending (readChain ending follow t (u :: rest))
        (.unknownOperator u.payload.display) (u :: rest) := by
      rw [readChain]
      simp only [hu, if_true]
      split
      · exact ⟨[], rfl⟩
      · rename_i hsome
        cases hsome.symm.trans hc
    show Fails ending (readExpr ending follow (t :: u :: rest)) _ _
    rw [readExpr.eq_def]
    rcases ht with ht | ht
    · simp only [ht, hu, reduceCtorEq, if_false]
      exact hchain
    · simp only [ht]
      exact hchain
  | @chain t u ts _ c d follow ht hu hd _ ih =>
    have hchain : Fails ending (readChain ending follow t (u :: (ts ++ rest))) c rest := by
      rw [readChain]
      simp only [hu, if_true]
      split
      · rename_i hnone
        cases hnone.symm.trans hd
      · exact Fails.bind (ih hnext) _
    show Fails ending (readExpr ending follow (t :: u :: (ts ++ rest))) _ _
    rw [readExpr.eq_def]
    rcases ht with ht | ht
    · simp only [ht, hu, reduceCtorEq, if_false]
      exact hchain
    · simp only [ht]
      exact hchain
  | @head t ts _ _ follow ht h =>
    subst hnext
    show Fails ending (readExpr ending follow (t :: (ts ++ rest))) _ _
    rw [readExpr.eq_def]
    simp only [ht]
    rw [readDefinition]
    exact h.fails.bind _
  | @define t us ts head _ _ follow ht hh _ ih =>
    show Fails ending (readExpr ending follow (t :: (us ++ ts ++ rest))) _ _
    rw [readExpr.eq_def, List.append_assoc]
    simp only [ht]
    rw [readDefinition]
    refine (gives_readHeader hh).bind_fails fun _ _ => ?_
    exact Fails.bind (ih hnext) _
  | firstArg _ ih =>
    show Fails ending (readArgs ending _) _ _
    rw [readArgs]
    exact Fails.bind (ih hnext) _
  | separator he hn h h' =>
    subst hnext
    show Fails ending (readArgs ending _) _ _
    rw [readArgs]
    refine (he.gives hn).bind_fails fun _ _ => ?_
    cases rest with
    | nil => exact (fails_missing _).behind _
    | cons t rest =>
      have ht : t.kind ≠ .rightParen := h t rfl
      have ht' : t.kind ≠ .comma := h' t rfl
      show Fails ending (if _ then _ else if _ then _ else _) _ _
      rw [if_neg ht, if_neg ht']
      exact (fails_missing _).behind _
  | @moreArgs t us ts e _ _ he ht _ ih =>
    show Fails ending (readArgs ending (us ++ t :: ts ++ rest)) _ _
    rw [List.append_assoc, List.cons_append, readArgs]
    refine (he.gives (leaves_of_kind e ht (by decide))).bind_fails fun _ _ => ?_
    show Fails ending (if _ then _ else if _ then _ else _) _ _
    rw [if_neg (by rw [ht]; decide), if_pos ht]
    exact (Fails.behind (ih hnext) e).bind _
  | statement _ ih =>
    show Fails ending (readStatement ending _) _ _
    rw [readStatement]
    exact Fails.bind (ih hnext) _
  | semicolon he hd hn h =>
    subst hnext
    show Fails ending (readStatement ending _) _ _
    rw [readStatement]
    refine (he.gives hn).bind_fails fun _ _ => ?_
    simp only [hd, Bool.false_eq_true, if_false]
    exact ((fails_takeToken h).behind _).bind _
  | bodyEnd =>
    obtain rfl := List.head?_eq_none_iff.1 hnext
    show Fails ending (readBody ending []) _ _
    rw [readBody]
    exact fails_missing _
  | firstOfBody _ hne hb ih =>
    subst hnext
    rw [begins_peek] at hb
    show Fails ending (readBody ending _) _ _
    rw [readBody_eq (mt peek_eq_nil.2 hne) hb]
    exact Fails.bind (ih rfl) _
  | @moreOfBody us ts e _ _ he hb _ ih =>
    have hne : us ++ (ts ++ rest) ≠ [] := List.append_ne_nil_of_left_ne_nil (he.ne_nil rfl) _
    have hb' : ¬ Begins .rightBrace (us ++ (ts ++ rest)) := by
      rwa [begins_append (he.ne_nil rfl)]
    show Fails ending (readBody ending (us ++ ts ++ rest)) _ _
    rw [List.append_assoc, readBody_eq hne hb']
    refine Gives.bind_fails (complete he ending (ts ++ rest)) fun _ _ => ?_
    exact (Fails.behind (ih hnext) e).bind _
  | firstOfProgram _ hne ih =>
    subst hnext
    show Fails ending (readStatements ending _) _ _
    rw [readStatements_eq (mt peek_eq_nil.2 hne)]
    exact Fails.bind (ih rfl) _
  | @moreOfProgram us ts e _ _ he _ ih =>
    have hne : us ++ (ts ++ rest) ≠ [] := List.append_ne_nil_of_left_ne_nil (he.ne_nil rfl) _
    show Fails ending (readStatements ending (us ++ ts ++ rest)) _ _
    rw [List.append_assoc, readStatements_eq hne]
    refine Gives.bind_fails (complete he ending (ts ++ rest)) fun _ _ => ?_
    exact (Fails.behind (ih hnext) e).bind _

end Readers

end Scriptlet.Grammar
