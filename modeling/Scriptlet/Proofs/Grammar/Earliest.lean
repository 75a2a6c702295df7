import Scriptlet.Proofs.Grammar.Stopping

/-!
# Readers stop as early as they can

Where a reader stops, the tokens that it took are stuck (`sticky`): a reader of expressions reads
each expression as far as it goes on (`exhausts_readExpr`), so whatever it misses is neither what is
expected behind the expression nor part of it.  What stands before the token that is blamed is
therefore the start of some program, and no program goes on with that token
(`readProgram_stops_early`).
-/

namespace Scriptlet.Grammar

open Goal

/-! ## How far expressions are read -/

/-- A reader of expressions leaves nothing that the expression goes on with. -/
def Exhausts {ts : List Token} : Except Stop (Reading Expr ts) → Prop
  | .ok r => Leaves r.value r.rest.head?
  | .error _ => True

section Exhausts

variable {ts : List Token} {ending : Option Span} {follow : String}

lemma exhausts_bind {α : Type} {x : Except Stop α} {f : α → Except Stop (Reading Expr ts)}
    (hf : ∀ a, x = .ok a → Exhausts (f a)) : Exhausts (x >>= f) := by
  cases x with
  | error s => trivial
  | ok a => exact hf a rfl

lemma Exhausts.leaves {r : Reading Expr ts} {x : Except Stop (Reading Expr ts)} (h : Exhausts x)
    (hr : x = .ok r) : Leaves r.value r.rest.head? := by
  rw [hr] at h
  exact h

lemma exhausts_readChain {t : Token} (ht : t.kind = .intLiteral ∨
      t.kind = .identifier ∧ ∀ u ∈ ts.head?, u.kind ≠ .assign ∧ u.kind ≠ .leftParen)
    (ih : ∀ u us, ts = u :: us → Exhausts (readExpr ending follow us)) :
    Exhausts (readChain ending follow t ts) := by
  rw [readChain.eq_def]
  cases ts with
  | nil =>
    rintro u ⟨⟩
  | cons u rest =>
    dsimp only
    split
    · split
      · trivial
      · rename_i c _
        refine exhausts_bind fun right hright => ?_
        have hleaves := (ih u rest rfl).leaves hright
        cases c <;> exact hleaves
    · rename_i hu
      rintro v ⟨⟩
      rcases ht with ht | ⟨ht, hrest⟩
      · simp [Reading.one, takes, ht, hu]
      · have := hrest u rfl
        simp [Reading.one, takes, ht, hu, this]

/-- **Each expression is read as far as it goes on.** -/
theorem exhausts_readExpr (ending : Option Span) (follow : String) (ts : List Token) :
    Exhausts (readExpr ending follow ts) := by
  induction hlen : ts.length using Nat.strongRecOn generalizing ts with
  | ind n ih =>
    subst hlen
    cases ts with
    | nil =>
      rw [readExpr]
      trivial
    | cons t rest =>
      have hrest : Exhausts (readExpr ending follow rest) := ih _ (Nat.lt_succ_self _) rest rfl
      have honward (u : Token) (us : List Token) (h : rest = u :: us) :
          Exhausts (readExpr ending follow us) := by
        refine ih us.length ?_ us rfl
        rw [h, List.length_cons, List.length_cons]
        omega
      rw [readExpr.eq_def]
      dsimp only
      split
      · exact exhausts_bind fun inner hinner => hrest.leaves hinner
      · rename_i ht
        split
        · rintro u ⟨⟩
        · rename_i u us
          split
          · exact exhausts_bind fun value hvalue => (honward u us rfl).leaves hvalue
          · split
            · exact exhausts_bind fun args _ => fun _ _ => rfl
            · rename_i hassign hparen
              refine exhausts_readChain (.inr ⟨ht, ?_⟩) honward
              rintro v ⟨⟩
              exact ⟨hassign, hparen⟩
      · rename_i ht
        exact exhausts_readChain (.inl ht) honward
      · rename_i ht
        exact fun u _ => by simp [Reading.one, takes, ht]
      · rename_i ht
        exact fun u _ => by simp [Reading.one, takes, ht]
      · rw [readDefinition]
        exact exhausts_bind fun header _ => exhausts_bind fun body _ => fun _ _ => rfl
      · exact fun u _ => by simp [Reading.one, takes, Token.asError]

end Exhausts

/-! ## Readers stop nowhere else -/

/-- Where the reader stops, the tokens that it took are stuck before the next one. -/
def Sticks {α : Type} (ending : Option Span) (q : List Token → Option Token → Cause → Prop)
    (ts : List Token) : Except Stop α → Prop
  | .ok _ => True
  | .error s => ∃ us c, ts = us ++ s.rest ∧ s.error = .located c (blamed ending s.rest.head?) ∧
      q us s.rest.head? c

section Sticks

variable {α β : Type} {ending : Option Span} {q q' : List Token → Option Token → Cause → Prop}
  {ts us : List Token}

/-- Readers that call others are stuck where those are, behind what was read before. -/
lemma Sticks.bind {x : Except Stop α} {f : α → Except Stop β} (hx : Sticks ending q us x)
    (vs : List Token) (hs : ts = vs ++ us)
    (hq : ∀ ws rest c, us = ws ++ rest → q ws rest.head? c → q' (vs ++ ws) rest.head? c)
    (hf : ∀ a, x = .ok a → Sticks ending q' ts (f a)) : Sticks ending q' ts (x >>= f) := by
  cases x with
  | error s =>
    obtain ⟨ws, c, hws, hc, h⟩ := hx
    refine ⟨vs ++ ws, c, ?_, hc, hq ws s.rest c hws h⟩
    rw [List.append_assoc, ← hws, hs]
  | ok a => exact hf a rfl

lemma Sticks.imp {x : Except Stop α} (hx : Sticks ending q ts x)
    (hq : ∀ us rest c, ts = us ++ rest → q us rest.head? c → q' us rest.head? c) :
    Sticks ending q' ts x := by
  cases x with
  | error s =>
    obtain ⟨us, c, hus, hc, h⟩ := hx
    exact ⟨us, c, hus, hc, hq us s.rest c hus h⟩
  | ok a => trivial

lemma Sticks.behind {x : Except Stop α} (hx : Sticks ending q ts x) (e : Expr) :
    Sticks ending q ts (behind e x) := by
  cases x with
  | error s => exact hx
  | ok a => trivial

lemma sticks_missing {what : String} {rest : List Token} (vs : List Token) (hs : ts = vs ++ rest)
    (h : q vs rest.head? (lacks what rest.head?)) :
    Sticks ending q ts (.error (missing ending what rest) : Except Stop α) := by
  cases rest <;> exact ⟨vs, _, hs, rfl, h⟩

lemma sticks_takeToken (kind : Token.Kind) (what : String) (ts : List Token) :
    Sticks ending (fun us next c => us = [] ∧ c = lacks what next ∧ Misses kind next) ts
      (takeToken ending kind what ts) := by
  unfold takeToken
  split
  · exact sticks_missing [] rfl ⟨rfl, rfl, misses_nil⟩
  · split
    · trivial
    · rename_i t rest ht
      exact sticks_missing [] rfl ⟨rfl, rfl, misses_cons ht⟩

/-- What a reader takes off the start of its tokens. -/
lemma Reads.split {p : α → List Token → Prop} {x : Except Stop (Reading α ts)} (hx : Reads p x)
    {r : Reading α ts} (hr : x = .ok r) : ∃ us, ts = us ++ r.rest ∧ p r.value us := by
  subst hr
  obtain ⟨us, hus, -, hp⟩ := hx
  exact ⟨us, hus, hp⟩

end Sticks

section Headers

variable {ending : Option Span}

lemma sticks_readParams (n : Nat) (ts : List Token) :
    Sticks ending ParamsStuck ts (readParams ending n ts) := by
  induction hlen : ts.length using Nat.strongRecOn generalizing n ts with
  | ind k ih =>
    rw [readParams]
    refine (sticks_takeToken .typeName "type" ts).bind [] rfl ?_ fun type htype => ?_
    · rintro ws rest c - ⟨rfl, rfl, h⟩
      exact .type h
    obtain ⟨_, hts, ht, rfl⟩ := (reads_takeToken ending .typeName "type" ts).split htype
    refine (sticks_takeToken .identifier "identifier" type.rest).bind _ hts ?_ fun name hname => ?_
    · rintro ws rest c - ⟨rfl, rfl, h⟩
      exact .name ht h
    obtain ⟨_, hrest, hn, rfl⟩ :=
      (reads_takeToken ending .identifier "identifier" type.rest).split hname
    rw [hrest, List.singleton_append, List.singleton_append] at hts
    dsimp only
    split
    · rename_i hnext
      rw [show name.rest = [] from hnext] at hts
      exact sticks_missing [type.value, name.value] hts
        (.separator ht hn misses_nil misses_nil)
    · rename_i t rest hnext
      rw [show name.rest = t :: rest from hnext] at hts
      split
      · trivial
      · rename_i hparen
        split
        · rename_i hcomma
          have hmore : ts = [type.value, name.value, t] ++ rest := hts
          have shorter : rest.length < ts.length := by
            rw [hmore, List.length_append]
            simp
          refine (ih rest.length (by omega) (n + 1) rest rfl).bind _ hmore ?_ fun _ _ => trivial
          exact fun ws rest c _ h => .more ht hn hcomma h
        · rename_i hcomma
          exact sticks_missing [type.value, name.value] hts
            (.separator ht hn (misses_cons hparen) (misses_cons hcomma))

/-- What a reader is stuck at does not start with this kind of token. -/
lemma Sticks.not_begins {α : Type} {q : List Token → Option Token → Cause → Prop} {ts : List Token}
    {x : Except Stop α} (hx : Sticks ending q ts x) {k : Token.Kind} (h : ¬ Begins k ts) :
    Sticks ending (fun us next c => q us next c ∧ ¬ Begins k (us ++ next.toList)) ts x := by
  refine hx.imp fun us rest c hus hq => ⟨hq, ?_⟩
  rwa [begins_peek, ← hus]

lemma sticks_readParamList (ts : List Token) :
    Sticks ending (fun us next c => ParamsStuck us next c ∧
      ¬ Begins .rightParen (us ++ next.toList)) ts (readParamList ending ts) := by
  by_cases hb : Begins .rightParen ts
  · cases ts with
    | nil => cases hb
    | cons t rest =>
      rw [begins_cons] at hb
      unfold readParamList
      simp only [hb, if_true]
      trivial
  · rw [readParamList_eq hb]
    exact (sticks_readParams 0 ts).not_begins hb

lemma sticks_readReturnClause (ts : List Token) :
    Sticks ending ReturnStuck ts (readReturnClause ending ts) := by
  unfold readReturnClause
  split
  · exact sticks_missing [] rfl (.clause misses_nil misses_nil)
  · rename_i t rest
    split
    · rename_i ha
      refine (sticks_takeToken .typeName "type" rest).bind [t] rfl ?_ fun type htype => ?_
      · rintro ws rest c - ⟨rfl, rfl, h⟩
        exact .type ha h
      obtain ⟨_, hrest, ht, rfl⟩ := (reads_takeToken ending .typeName "type" rest).split htype
      refine (sticks_takeToken .leftBrace "brace" type.rest).bind [t, type.value]
        (congrArg (t :: ·) hrest) ?_ fun _ _ => trivial
      rintro ws rest c - ⟨rfl, rfl, h⟩
      exact .brace ha ht h
    · rename_i ha
      split
      · trivial
      · rename_i hb
        exact sticks_missing [] rfl (.clause (misses_cons ha) (misses_cons hb))

lemma sticks_readHeader (ts : List Token) :
    Sticks ending HeadStuck ts (readHeader ending ts) := by
  unfold readHeader
  refine (sticks_takeToken .identifier "identifier" ts).bind [] rfl ?_ fun name hname => ?_
  · rintro ws rest c - ⟨rfl, rfl, h⟩
    exact .name h
  obtain ⟨_, hts, hn, rfl⟩ := (reads_takeToken ending .identifier "identifier" ts).split hname
  refine (sticks_takeToken .leftParen "'('" name.rest).bind _ hts ?_ fun left hleft => ?_
  · rintro ws rest c - ⟨rfl, rfl, h⟩
    exact .paren hn h
  obtain ⟨_, hrest, hl, rfl⟩ := (reads_takeToken ending .leftParen "'('" name.rest).split hleft
  have hts₂ : ts = [name.value, left.value] ++ left.rest :=
    hts.trans (congrArg (name.value :: ·) hrest)
  refine (sticks_readParamList left.rest).bind _ hts₂ ?_ fun params hparams => ?_
  · exact fun ws rest c _ h => .params hn hl h.1 h.2
  obtain ⟨_, hrest₂, us, right, rfl, hr, hp⟩ := (reads_readParamList ending left.rest).split hparams
  have hts₃ : ts = (name.value :: left.value :: (us ++ [right])) ++ params.rest :=
    hts₂.trans (congrArg (name.value :: left.value :: ·) hrest₂)
  refine (sticks_readReturnClause params.rest).bind _ hts₃ ?_ fun _ _ => trivial
  intro ws rest c _ h
  have hstuck := HeadStuck.returnType hn hl hp hr h
  simpa using hstuck

end Headers

/-- Of these tokens, the readers that other readers call stop only where they are stuck. -/
structure Sticky (ts : List Token) : Prop where
  expr : ∀ ending follow, Sticks ending (Stuck (expr follow)) ts (readExpr ending follow ts)
  args : ∀ ending, Sticks ending (Stuck args) ts (readArgs ending ts)
  body : ∀ ending, Sticks ending (Stuck body) ts (readBody ending ts)

section Readers

variable {ts : List Token}

lemma sticks_readChain {t : Token} (ht : t.kind = .identifier ∨ t.kind = .intLiteral)
    (ih : ∀ u us, ts = u :: us → Sticky us) (ending : Option Span) (follow : String) :
    Sticks ending (Stuck (expr follow)) (t :: ts) (readChain ending follow t ts) := by
  rw [readChain.eq_def]
  cases ts with
  | nil => trivial
  | cons u rest =>
    dsimp only
    split
    · rename_i hu
      split
      · rename_i hc
        exact ⟨[t], _, rfl, rfl, .unknown ht hu hc⟩
      · rename_i d hd
        refine ((ih u rest rfl).expr ending follow).bind [t, u] rfl ?_ fun _ _ => trivial
        exact fun ws rest c _ h => .chain ht hu hd h
    · trivial

lemma sticks_readArgList (ending : Option Span)
    (h : Sticks ending (Stuck args) ts (readArgs ending ts)) :
    Sticks ending (fun us next c => Stuck args us next c ∧
      ¬ Begins .rightParen (us ++ next.toList)) ts (readArgList ending ts) := by
  by_cases hb : Begins .rightParen ts
  · cases ts with
    | nil => cases hb
    | cons t rest =>
      rw [begins_cons] at hb
      rw [readArgList, if_pos hb]
      trivial
  · rw [readArgList_eq hb]
    exact h.not_begins hb

lemma sticks_readArgs (ending : Option Span)
    (hExpr : Sticks ending (Stuck (expr "comma, or ')'")) ts
      (readExpr ending "comma, or ')'" ts))
    (hReads : Reads (fun e us => Derives (.expr e) us) (readExpr ending "comma, or ')'" ts))
    (ih : ∀ us, us <:+ ts → us.length < ts.length → Sticky us) :
    Sticks ending (Stuck args) ts (readArgs ending ts) := by
  rw [readArgs]
  refine hExpr.bind [] rfl (fun ws rest c _ h => .firstArg h) fun arg harg => ?_
  obtain ⟨us, hts, hus⟩ := hReads.split harg
  have hleaves := (exhausts_readExpr ending "comma, or ')'" ts).leaves harg
  split
  · rename_i hnext
    rw [hnext] at hts hleaves
    exact (sticks_missing _ hts (.separator hus hleaves misses_nil misses_nil)).behind _
  · rename_i t rest hnext
    rw [hnext] at hts hleaves
    split
    · trivial
    · rename_i hparen
      split
      · rename_i hcomma
        have hmore : ts = (us ++ [t]) ++ rest := by simp [hts]
        have shorter : rest.length < ts.length := by
          rw [hmore, List.length_append, List.length_append, List.length_singleton]
          omega
        have onward := (ih rest ⟨us ++ [t], hmore.symm⟩ shorter).args ending
        refine (onward.behind _).bind _ hmore ?_ fun _ _ => trivial
        intro ws rest c _ h
        have hstuck := Stuck.moreArgs hus hcomma h
        simpa using hstuck
      · rename_i hcomma
        have hstuck := Stuck.separator hus hleaves (misses_cons hparen) (misses_cons hcomma)
        exact (sticks_missing _ hts hstuck).behind _

lemma sticks_readDefinition {t : Token} (ht : t.kind = .func) (ending : Option Span)
    (follow : String) (ih : ∀ us, us <:+ ts → Sticky us) :
    Sticks ending (Stuck (expr follow)) (t :: ts) (readDefinition ending t ts) := by
  rw [readDefinition]
  refine (sticks_readHeader ts).bind [t] rfl ?_ fun header hheader => ?_
  · exact fun ws rest c _ h => .head ht h
  obtain ⟨us, hus, hhead⟩ := (reads_readHeader ending ts).split hheader
  have onward := (ih header.rest ⟨us, hus.symm⟩).body ending
  refine onward.bind (t :: us) (congrArg (t :: ·) hus) ?_ fun _ _ => trivial
  exact fun ws rest c _ h => .define ht hhead h

lemma sticks_readExpr (ih : ∀ us, us <:+ ts → us.length < ts.length → Sticky us)
    (ending : Option Span) (follow : String) :
    Sticks ending (Stuck (expr follow)) ts (readExpr ending follow ts) := by
  cases ts with
  | nil =>
    rw [readExpr]
    exact sticks_missing [] rfl .exprEnd
  | cons t rest =>
    have hrest : Sticky rest := ih rest (List.suffix_cons t rest) (Nat.lt_succ_self _)
    have honward (u : Token) (us : List Token) (h : rest = u :: us) : Sticky us := by
      refine ih us ⟨[t, u], by rw [h]; rfl⟩ ?_
      rw [h, List.length_cons, List.length_cons]
      omega
    rw [readExpr.eq_def]
    dsimp only
    split
    · rename_i ht
      refine (hrest.expr ending follow).bind [t] rfl ?_ fun _ _ => trivial
      exact fun ws rest c _ h => .ret ht h
    · rename_i ht
      split
      · trivial
      · rename_i u us
        split
        · rename_i hu
          refine ((honward u us rfl).expr ending follow).bind [t, u] rfl ?_
            fun _ _ => trivial
          exact fun ws rest c _ h => .assign ht hu h
        · split
          · rename_i hu
            have hargs := sticks_readArgList ending ((honward u us rfl).args ending)
            refine hargs.bind [t, u] rfl ?_ fun _ _ => trivial
            exact fun ws rest c _ h => .call ht hu h.1 h.2
          · exact sticks_readChain (.inl ht) honward ending follow
    · rename_i ht
      exact sticks_readChain (.inr ht) honward ending follow
    · trivial
    · trivial
    · rename_i ht
      exact sticks_readDefinition ht ending follow fun us hus =>
        ih us (hus.trans (List.suffix_cons t rest)) (Nat.lt_succ_of_le hus.length_le)
    · trivial

lemma sticks_readStatement (ending : Option Span)
    (hExpr : Sticks ending (Stuck (expr "semicolon")) ts (readExpr ending "semicolon" ts))
    (hReads : Reads (fun e us => Derives (.expr e) us) (readExpr ending "semicolon" ts)) :
    Sticks ending (Stuck statement) ts (readStatement ending ts) := by
  rw [readStatement]
  refine hExpr.bind [] rfl (fun ws rest c _ h => .statement h) fun e he => ?_
  obtain ⟨us, hts, hus⟩ := hReads.split he
  have hleaves := (exhausts_readExpr ending "semicolon" ts).leaves he
  split
  · trivial
  · rename_i hd
    refine ((sticks_takeToken .semicolon "semicolon" e.rest).behind e.value).bind _ hts ?_
      fun _ _ => trivial
    rintro ws rest c hrest ⟨rfl, rfl, h⟩
    rw [List.nil_append] at hrest
    rw [List.append_nil]
    exact .semicolon hus (by simpa using hd) (hrest ▸ hleaves) h

lemma sticks_readBody (ending : Option Span)
    (hStatement : Sticks ending (Stuck statement) ts (readStatement ending ts))
    (hReads : Reads (fun e us => Derives (.statement e) us) (readStatement ending ts))
    (ih : ∀ us, us <:+ ts → us.length < ts.length → Sticky us) :
    Sticks ending (Stuck body) ts (readBody ending ts) := by
  by_cases hne : ts = []
  · subst hne
    rw [readBody]
    exact sticks_missing [] rfl .bodyEnd
  by_cases hb : Begins .rightBrace ts
  · obtain ⟨t, rest, rfl⟩ := List.exists_cons_of_ne_nil hne
    rw [begins_cons] at hb
    rw [readBody, if_pos hb]
    trivial
  rw [readBody_eq hne hb]
  refine hStatement.bind [] rfl ?_ fun first hfirst => ?_
  · intro ws rest c hws h
    rw [hws, ← peek_eq_nil] at hne
    rw [hws, ← begins_peek] at hb
    exact .firstOfBody h hne hb
  obtain ⟨us, hts, hus⟩ := hReads.split hfirst
  have hb' : ¬ Begins .rightBrace us := by
    rwa [hts, begins_append (hus.ne_nil rfl)] at hb
  have onward := (ih first.rest ⟨us, hts.symm⟩ first.shorter).body ending
  refine (onward.behind _).bind _ hts ?_ fun _ _ => trivial
  exact fun ws rest c _ h => .moreOfBody hus hb' h

/-- **Readers stop only where the tokens are stuck.** -/
theorem sticky (hend : Endless ts) : Sticky ts := by
  induction hlen : ts.length using Nat.strongRecOn generalizing ts with
  | ind n ih =>
    subst hlen
    have ih' (us : List Token) (hs : us <:+ ts) (hlt : us.length < ts.length) : Sticky us :=
      ih us.length hlt (hend.mono hs) rfl
    have hExpr := sticks_readExpr ih'
    have hReads := (sound hend).expr
    refine ⟨hExpr, fun ending => sticks_readArgs ending (hExpr ending _) (hReads ending _) ih', ?_⟩
    intro ending
    exact sticks_readBody ending
      (sticks_readStatement ending (hExpr ending _) (hReads ending _))
      (reads_readStatement ending (hReads ending _)) ih'

/-- So does the reader of a program. -/
theorem sticks_readStatements (hend : Endless ts) (ending : Option Span) :
    Sticks ending (Stuck program) ts (readStatements ending ts) := by
  induction hlen : ts.length using Nat.strongRecOn generalizing ts with
  | ind n ih =>
    subst hlen
    by_cases hne : ts = []
    · rw [hne, readStatements]
      trivial
    rw [readStatements_eq hne]
    have hReads := (sound hend).expr ending "semicolon"
    have hStatement := sticks_readStatement ending ((sticky hend).expr ending _) hReads
    refine hStatement.bind [] rfl ?_ fun first hfirst => ?_
    · intro ws rest c hws h
      rw [hws, ← peek_eq_nil] at hne
      exact .firstOfProgram h hne
    obtain ⟨us, hts, hus⟩ := (reads_readStatement ending hReads).split hfirst
    have onward := ih first.rest.length first.shorter (hend.mono ⟨us, hts.symm⟩) rfl
    refine (onward.behind _).bind _ hts ?_ fun _ _ => trivial
    exact fun ws rest c _ h => .moreOfProgram hus h

end Readers

/-! ## What is wrong -/

/-- The cause says what is wrong with the next token, or that the tokens end. -/
def Explains : Option Token → Cause → Prop
  | none, c => ∃ what, c = .unexpectedEnd what
  | some t, c => (∃ what, c = .expected what) ∨
      t.kind = .operator ∧ c = .unknownOperator t.payload.display

section Explains

variable {ts : List Token} {next : Option Token} {c : Cause}

lemma explains_lacks (what : String) (next : Option Token) : Explains next (lacks what next) := by
  cases next with
  | none => exact ⟨what, rfl⟩
  | some t => exact .inl ⟨what, rfl⟩

lemma ParamsStuck.explains (h : ParamsStuck ts next c) : Explains next c := by
  induction h with
  | more _ _ _ _ ih => exact ih
  | _ => exact explains_lacks _ _

lemma ReturnStuck.explains (h : ReturnStuck ts next c) : Explains next c := by
  cases h <;> exact explains_lacks _ _

lemma HeadStuck.explains (h : HeadStuck ts next c) : Explains next c := by
  cases h with
  | name | paren => exact explains_lacks _ _
  | params _ _ h => exact h.explains
  | returnType _ _ _ _ h => exact h.explains

lemma Stuck.explains {g : Goal} (h : Stuck g ts next c) : Explains next c := by
  induction h with
  | exprEnd | bodyEnd => exact ⟨_, rfl⟩
  | separator | semicolon => exact explains_lacks _ _
  | unknown _ hu => exact .inr ⟨hu, rfl⟩
  | head _ h => exact h.explains
  | _ => assumption

end Explains

/-! ## Programs -/

section Endless

variable {ts us : List Token}

lemma Endless.append (hts : Endless ts) (hus : Endless us) : Endless (ts ++ us) :=
  List.forall_mem_append.2 ⟨hts, hus⟩

lemma Endless.cons {k : Token.Kind} {t : Token} (ht : t.kind = k) (hts : Endless ts)
    (hk : k ≠ .eof := by decide) : Endless (t :: ts) :=
  List.forall_mem_cons.2 ⟨ht ▸ hk, hts⟩

lemma endless_nil : Endless [] := List.forall_mem_nil _

lemma Params.endless {n : Nat} {ps : List Param} (h : Params n ts ps) : Endless ts := by
  induction h with
  | last ht hn => exact .cons ht (.cons hn endless_nil)
  | more ht hn hc _ ih => exact .cons ht (.cons hn (.cons hc ih))

lemma Head.endless {head : Header} (h : Head ts head) : Endless ts := by
  obtain @⟨_, _, _, _, ts, us, _, _, hn, hl, hp, hr, hu, hb⟩ := h
  have hts : Endless ts := by
    cases hp with
    | none => exact endless_nil
    | some h => exact h.endless
  have hus : Endless us := by
    cases hu with
    | none => exact endless_nil
    | some ha ht => exact .cons ha (.cons ht endless_nil)
  exact .cons hn (.cons hl (hts.append (.cons hr (hus.append (.cons hb endless_nil)))))

/-- A phrase has no end of input in it. -/
lemma Derives.endless {p : Phrase} (h : Derives p ts) : Endless ts := by
  induction h with
  | ret ht _ ih => exact .cons ht ih
  | assign ht hu _ ih => exact .cons ht (.cons hu ih)
  | callEmpty ht hu hv => exact .cons ht (.cons hu (.cons hv endless_nil))
  | call ht hu _ _ hv ih => exact .cons ht (.cons hu (ih.append (.cons hv endless_nil)))
  | chain ht hu _ _ ih =>
    rcases ht with ht | ht
    · exact .cons ht (.cons hu ih)
    · exact .cons ht (.cons hu ih)
  | operand ht => exact .cons rfl endless_nil fun h => by rw [h] at ht; cases ht
  | stray ht => exact .cons rfl endless_nil fun h => by rw [h] at ht; cases ht
  | define ht hh _ hv ih => exact .cons ht (hh.endless.append (ih.append (.cons hv endless_nil)))
  | lastArg _ ih | definition _ _ ih => exact ih
  | moreArgs _ ht _ ih ihs => exact ih.append (.cons ht ihs)
  | terminated _ _ ht ih => exact ih.append (.cons ht endless_nil)
  | bodyEnd | programEnd => exact endless_nil
  | bodyMore _ _ _ ih ihs | programMore _ _ ih ihs => exact ih.append ihs

end Endless

/-- The tokens in front of the first end of input are those that are read. -/
lemma readProgram_append {ts : List Token} (hts : Endless ts) (more : List Token) :
    ∃ ending, readProgram (ts ++ more) =
      readStatements ending (ts ++ more.takeWhile (·.kind ≠ .eof)) := by
  refine ⟨((ts ++ more).find? (·.kind = .eof)).bind (·.span), ?_⟩
  rw [readProgram, List.takeWhile_append_of_pos fun t ht => by simpa using hts t ht]

/-- What is stuck is the start of some program. -/
lemma Stuck.starts_program {ts : List Token} {next : Option Token} {c : Cause}
    (h : Stuck program ts next c) : ∃ more es, readProgram (ts ++ more) = .ok es := by
  obtain ⟨more, ⟨es, hes⟩, -⟩ := h.completes
  refine ⟨more, es, ?_⟩
  rw [readProgram_eq hes.endless]
  exact complete hes none

/-- With the next token it is the start of none. -/
lemma Stuck.starts_none {ts : List Token} {t : Token} {c : Cause} (h : Stuck program ts (some t) c)
    (hend : Endless (ts ++ [t])) (more : List Token) :
    ∃ s, readProgram (ts ++ [t] ++ more) = .error s ∧ s.error = .located c t.span := by
  obtain ⟨ending, hread⟩ := readProgram_append hend more
  let rest := t :: more.takeWhile (·.kind ≠ .eof)
  obtain ⟨read, hs⟩ : Fails ending (readStatements ending (ts ++ rest)) c rest :=
    h.fails ending rfl
  rw [hread, List.append_assoc, List.singleton_append, hs]
  exact ⟨_, rfl, rfl⟩

/-- Where reading stops, the tokens that stand before the end of input are stuck. -/
lemma stuck_of_readProgram {ts : List Token} {s : Stop} (h : readProgram ts = .error s) :
    ∃ us c ending, ts.takeWhile (·.kind ≠ .eof) = us ++ s.rest ∧ Endless (us ++ s.rest) ∧
      s.error = .located c (blamed ending s.rest.head?) ∧ Stuck program us s.rest.head? c := by
  obtain ⟨ending, hread⟩ := readProgram_append endless_nil ts
  rw [List.nil_append, List.nil_append] at hread
  have hend : Endless (ts.takeWhile (·.kind ≠ .eof)) := by
    intro t ht
    simpa using List.mem_takeWhile_imp ht
  have hsticks := sticks_readStatements hend ending
  rw [← hread, h] at hsticks
  obtain ⟨us, c, hus, hc, hstuck⟩ := hsticks
  exact ⟨us, c, ending, hus, hus ▸ hend, hc, hstuck⟩

/-- **Reading stops as early as it can.**  If reading a program stops, then the tokens that stand
before are the start of some program.  Either they are all there are, or there is a next token,
which the error points at: then the error is the same whatever stands behind that token, so no
program starts with these tokens and that one. -/
theorem readProgram_stops_early {ts : List Token} {s : Stop} (h : readProgram ts = .error s) :
    ∃ k, s.rest = (ts.takeWhile (·.kind ≠ .eof)).drop k ∧
      (∃ more es, readProgram (ts.take k ++ more) = .ok es) ∧
      (s.error.code = "E102" ∧ s.rest = [] ∧ ts.take k = ts.takeWhile (·.kind ≠ .eof) ∨
        ∃ t, ts[k]? = some t ∧ s.rest.head? = some t ∧ s.error.span = t.span ∧
          (s.error.code = "E101" ∨ s.error.code = "E103" ∧ t.kind = .operator) ∧
          ∀ more, ∃ s', readProgram (ts.take (k + 1) ++ more) = .error s' ∧
            s'.error = s.error) := by
  obtain ⟨us, c, ending, hus, hend, hc, hstuck⟩ := stuck_of_readProgram h
  have hts : ts = us ++ (s.rest ++ ts.dropWhile (·.kind ≠ .eof)) := by
    rw [← List.append_assoc, ← hus, List.takeWhile_append_dropWhile]
  have htake : ts.take us.length = us := by
    rw [hts, List.take_left]
  refine ⟨us.length, ?_, ?_, ?_⟩
  · rw [hus, List.drop_left]
  · rw [htake]
    exact hstuck.starts_program
  have hcause := hstuck.explains
  cases hrest : s.rest with
  | nil =>
    rw [hrest] at hcause hus
    obtain ⟨what, rfl⟩ := hcause
    refine .inl ⟨by rw [hc]; rfl, rfl, ?_⟩
    rw [htake, hus, List.append_nil]
  | cons t rest =>
    rw [hrest] at hcause hc hts hstuck hend
    have hnext : ts[us.length]? = some t := by
      rw [hts]
      simp
    have htake' : ts.take (us.length + 1) = us ++ [t] := by
      rw [List.take_add_one, htake, hnext]
      rfl
    refine .inr ⟨t, hnext, rfl, by rw [hc]; rfl, ?_, fun more => ?_⟩
    · rw [hc]
      obtain ⟨what, rfl⟩ | ⟨ht, rfl⟩ := hcause
      · exact .inl rfl
      · exact .inr ⟨rfl, ht⟩
    · rw [List.append_cons] at hend
      rw [htake', hc]
      exact hstuck.starts_none (fun u hu => hend u (List.mem_append_left _ hu)) more

/-- The tokens of `f(1 2);`. -/
def spacedCall : List Token :=
  [.ofText .identifier "f", .ofText .leftParen "(", .ofInt 1, .ofInt 2, .ofText .rightParen ")",
    .ofText .semicolon ";"]

/-- There the second number is one too many, whatever stands behind it. -/
theorem readProgram_spacedCall :
    ∃ s, readProgram spacedCall = .error s ∧ s.error.code = "E101" ∧
      ∀ more, ∃ s', readProgram (spacedCall.take 4 ++ more) = .error s' ∧ s'.error = s.error := by
  have hstop : ((readProgram spacedCall).mapError fun s => (s.error.code, s.rest.length)).map
      (fun _ => ()) = .error ("E101", 3) := by decide +kernel
  cases hread : readProgram spacedCall with
  | ok es =>
    rw [hread] at hstop
    cases hstop
  | error s =>
    rw [hread] at hstop
    obtain ⟨hcode, hlength⟩ := Prod.mk.inj (Except.error.inj hstop)
    obtain ⟨k, hk, -, ⟨hcode', -⟩ | ⟨t, -, -, -, -, hmore⟩⟩ := readProgram_stops_early hread
    · exact absurd (hcode.symm.trans hcode') (by decide)
    · have hbody : spacedCall.takeWhile (·.kind ≠ .eof) = spacedCall := by decide
      rw [hbody] at hk
      have hk3 : k = 3 := by
        have hdrop := congrArg List.length hk
        rw [hlength, List.length_drop] at hdrop
        have hlen : spacedCall.length = 6 := rfl
        omega
      subst hk3
      exact ⟨s, rfl, hcode, hmore⟩

end Scriptlet.Grammar
