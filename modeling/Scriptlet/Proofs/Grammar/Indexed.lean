import Mathlib.Data.List.TakeWhile
import Scriptlet.Expr.Cursor
import Scriptlet.Proofs.Grammar.Soundness

/-!
# Reading by index agrees with reading

A reader that moves an index comes to what the reader of the tokens from there on comes to
(`Cursor.agreeing`): it gives the same, and then stands before the tokens that are left, or it gives
up with the same error.  One thing is different.  At the end of input an expression is not given up:
an error leaf is made up there, and what comes after the expression gives up in its place
(`Errs`).  So reading by index looks for no token where there is none, and it nests calls no deeper
than four times the number of the tokens and a few more.
-/

namespace Scriptlet.Cursor

open Grammar

variable {α β γ : Type} {ts us rs : List Token} {e t : Token} {i j : Nat}

/-! ## Single steps -/

/-- Started at `i`, the reader gives `a` and moves to `j`. -/
def Returns (p : Reader α) (i : Nat) (a : α) (j : Nat) : Prop := p.run i = .ok (a, j)

/-- Started at `i`, the reader gives up. -/
def Throws (p : Reader α) (i : Nat) (trouble : Trouble) : Prop := p.run i = .error trouble

lemma Returns.bind {p : Reader α} {a : α} (h : Returns p i a j) (f : α → Reader β) :
    (p >>= f).run i = (f a).run j := by
  unfold Returns at h
  rw [StateT.run_bind, h]
  rfl

lemma Throws.bind {p : Reader α} {trouble : Trouble} (h : Throws p i trouble) (f : α → Reader β) :
    Throws (p >>= f) i trouble := by
  unfold Throws at *
  rw [StateT.run_bind, h]
  rfl

/-- From the index `i` on, the tokens are `rs`, and then comes the end of input `e`. -/
structure Stands (ts : List Token) (e : Token) (i : Nat) (rs : List Token) : Prop where
  endless : Endless rs
  isEnd : e.kind = .eof
  split : ∃ vs, ts.drop i = rs ++ e :: vs

namespace Stands

lemma getElem? (h : Stands ts e i rs) : ts[i]? = some (rs.headD e) := by
  obtain ⟨vs, hvs⟩ := h.split
  have hhead : (ts.drop i).head? = ts[i]? := List.head?_drop
  rw [← hhead, hvs]
  cases rs <;> rfl

lemma tail (h : Stands ts e i (t :: rs)) : Stands ts e (i + 1) rs := by
  obtain ⟨vs, hvs⟩ := h.split
  refine ⟨h.endless.mono (List.suffix_cons t rs), h.isEnd, vs, ?_⟩
  rw [← List.tail_drop, hvs]
  rfl

lemma kind_ne (h : Stands ts e i (t :: rs)) : t.kind ≠ .eof := h.endless t (List.mem_cons_self ..)

/-- The token before is the one that was taken. -/
lemma taken (h : Stands ts e i (t :: rs)) : ts[i + 1 - 1]? = some t := h.getElem?

end Stands

lemma returns_current (h : Stands ts e i rs) : Returns (current ts) i (rs.headD e) i := by
  have hget := h.getElem?
  show (tokenAt ts i).run i = _
  unfold tokenAt
  rw [hget]
  rfl

lemma returns_advance (h : Stands ts e i (t :: rs)) : Returns (advance ts) i t (i + 1) := by
  refine ((returns_current h).bind _).trans ?_
  rw [List.headD_cons, if_neg h.kind_ne]
  rfl

/-- The index stays where it is at the end of input. -/
lemma returns_advance_end (h : Stands ts e i []) : Returns (advance ts) i e i := by
  refine ((returns_current h).bind _).trans ?_
  rw [List.headD_nil, if_pos h.isEnd]
  rfl

lemma returns_accept {kind : Token.Kind} (h : Stands ts e i (t :: rs)) (ht : t.kind = kind) :
    Returns (accept ts kind) i true (i + 1) := by
  refine ((returns_current h).bind _).trans ?_
  rw [List.headD_cons, if_pos ht]
  exact (returns_advance h).bind _

lemma returns_accept_not {kind : Token.Kind} (h : Stands ts e i rs)
    (ht : (rs.headD e).kind ≠ kind) : Returns (accept ts kind) i false i := by
  refine ((returns_current h).bind _).trans ?_
  rw [if_neg ht]
  rfl

lemma throws_giveUp (h : Stands ts e i rs) (what : String) :
    Throws (giveUp ts what : Reader α) i (.error (missing e.span what rs).error) := by
  refine ((returns_current h).bind _).trans ?_
  cases rs with
  | nil =>
    rw [List.headD_nil, if_pos h.isEnd]
    rfl
  | cons t rs =>
    rw [List.headD_cons, if_neg h.kind_ne]
    rfl

lemma returns_spanFrom {last : Token} (hlast : ts[j - 1]? = some last) (start : Token) :
    Returns (spanFrom ts start) j (spanOf start last) j := by
  show (tokenAt ts (j - 1) >>= fun last => pure (spanOf start last)).run j = _
  unfold tokenAt
  rw [hlast]
  rfl

/-! ## Agreement -/

/-- The reader gives up with the error; or, where `late` says what will be missing, it is at the
end of input, and the error is that this is missing there. -/
def Errs (ts : List Token) (e : Token) (late : Option String) (error : LangError) (p : Reader α)
    (i : Nat) : Prop :=
  Throws p i (.error error) ∨
    ∃ what ∈ late, error = .located (.unexpectedEnd what) e.span ∧
      ∃ a j, Returns p i a j ∧ Stands ts e j []

/-- The reader by index comes to what the other reader came to. -/
def Agrees (ts : List Token) (e : Token) (late : Option String) :
    Except Stop (Reading α rs) → Reader α → Nat → Prop
  | .ok r, p, i => ∃ j, Returns p i r.value j ∧ Stands ts e j r.rest ∧ ts[j - 1]? = some r.last
  | .error s, p, i => Errs ts e late s.error p i

section Agrees

variable {late late' : Option String} {p q : Reader α} {x : Except Stop (Reading α rs)}

lemma Errs.throws {error : LangError} (h : Errs ts e none error p i) :
    Throws p i (.error error) := by
  rcases h with h | ⟨what, hwhat, -⟩
  · exact h
  · cases hwhat

/-- What is given up behind a step that was taken. -/
lemma Errs.of_returns {error : LangError} {f : Reader β} {b : β} {g : β → Reader α}
    (h : Returns f i b j) (h' : Errs ts e late error (g b) j) :
    Errs ts e late error (f >>= g) i := by
  have hrun := h.bind g
  rcases h' with hk | ⟨what, hwhat, herror, a, k, hk, hs⟩
  · exact .inl (hrun.trans hk)
  · exact .inr ⟨what, hwhat, herror, a, k, hrun.trans hk, hs⟩

lemma Agrees.weaken (h : Agrees ts e none x p i) : Agrees ts e late x p i := by
  cases x with
  | ok r => exact h
  | error s => exact .inl h.throws

lemma agrees_done {r : Reading α rs} (hs : Stands ts e i r.rest) (hl : ts[i - 1]? = some r.last) :
    Agrees ts e late (.ok r) (pure r.value) i :=
  ⟨i, rfl, hs, hl⟩

lemma agrees_giveUp (h : Stands ts e i us) (what : String) :
    Agrees ts e late (.error (missing e.span what us) : Except Stop (Reading α rs))
      (giveUp ts what) i :=
  .inl (throws_giveUp h what)

/-- What is read on behind a step that both take. -/
lemma Agrees.of_returns {f : Reader β} {b : β} {g : β → Reader α} (h : Returns f i b j)
    (h' : Agrees ts e late x (g b) j) : Agrees ts e late x (f >>= g) i := by
  cases x with
  | ok r =>
    obtain ⟨k, hk, hs⟩ := h'
    exact ⟨k, (h.bind g).trans hk, hs⟩
  | error s => exact Errs.of_returns h h'

lemma Agrees.accepts {kind : Token.Kind} (hs : Stands ts e i (t :: us)) (ht : t.kind = kind)
    (h : Agrees ts e late x p (i + 1)) :
    Agrees ts e late x (do if ← accept ts kind then p else q) i :=
  .of_returns (returns_accept hs ht) h

lemma Agrees.refuses {kind : Token.Kind} (hs : Stands ts e i us) (ht : (us.headD e).kind ≠ kind)
    (h : Agrees ts e late x q i) : Agrees ts e late x (do if ← accept ts kind then p else q) i :=
  .of_returns (returns_accept_not hs ht) h

/-- At the end of input, nothing else is accepted. -/
lemma Agrees.refuses_end {kind : Token.Kind} (hs : Stands ts e i []) (hkind : kind ≠ .eof)
    (h : Agrees ts e late x q i) : Agrees ts e late x (do if ← accept ts kind then p else q) i :=
  h.refuses hs fun ht => hkind (ht.symm.trans hs.isEnd)

/-- Reading on behind readers that agree.  Behind what was made up at the end of input, the error
is that of the other reader. -/
lemma Agrees.bind {y : Except Stop (Reading β us)} {f : Reading β us → Except Stop (Reading α rs)}
    {o : Reader β} {g : β → Reader α} (h : Agrees ts e late' y o i)
    (hok : ∀ r j, y = .ok r → Stands ts e j r.rest → ts[j - 1]? = some r.last →
      Agrees ts e late (f r) (g r.value) j)
    (hlate : ∀ what ∈ late', ∀ b j, Stands ts e j [] →
      Errs ts e late (.located (.unexpectedEnd what) e.span) (g b) j) :
    Agrees ts e late (y >>= f) (o >>= g) i := by
  cases y with
  | ok r =>
    obtain ⟨j, hj, hs, hl⟩ := h
    exact .of_returns hj (hok r j rfl hs hl)
  | error s =>
    show Errs ts e late s.error _ i
    rcases h with h | ⟨what, hwhat, herror, b, j, hj, hs⟩
    · exact .inl (h.bind g)
    · rw [herror]
      exact .of_returns hj (hlate what hwhat b j hs)

/-- Reading on behind readers that agree, the one by index never late. -/
lemma Agrees.bind_strict {y : Except Stop (Reading β us)}
    {f : Reading β us → Except Stop (Reading α rs)} {o : Reader β} {g : β → Reader α}
    (h : Agrees ts e none y o i)
    (hok : ∀ r j, y = .ok r → Stands ts e j r.rest → ts[j - 1]? = some r.last →
      Agrees ts e late (f r) (g r.value) j) :
    Agrees ts e late (y >>= f) (o >>= g) i :=
  h.bind hok fun _ hwhat => nomatch hwhat

lemma Agrees.behind (h : Agrees ts e late x p i) (a : Expr) :
    Agrees ts e late (Scriptlet.behind a x) p i := by
  cases x with
  | ok r => exact h
  | error s => exact h

/-- To make a node of what was read changes nothing about how reading ends. -/
lemma Agrees.node {y : Except Stop (Reading β us)} {o : Reader β} (h : Agrees ts e late y o i)
    (start : Token) {f : Reading β us → Reading α rs} {g : β → Option Span → α}
    (hvalue : ∀ r, (f r).value = g r.value (spanOf start r.last))
    (hrest : ∀ r, (f r).rest = r.rest) (hlast : ∀ r, (f r).last = r.last) :
    Agrees ts e late (do let r ← y; .ok (f r))
      (do let b ← o; return g b (← spanFrom ts start)) i := by
  refine h.bind (fun r j _ hs hl => ?_) fun what hwhat b j hs => ?_
  · refine .of_returns (returns_spanFrom hl start) ?_
    rw [← hvalue]
    exact agrees_done (hrest r ▸ hs) (hlast r ▸ hl)
  · -- the index is within the tokens, so there is one before it
    obtain ⟨hlt, -⟩ := List.getElem?_eq_some_iff.1 hs.getElem?
    obtain ⟨last, hlast⟩ : ∃ last, ts[j - 1]? = some last :=
      ⟨_, List.getElem?_eq_getElem (Nat.lt_of_le_of_lt (Nat.sub_le j 1) hlt)⟩
    exact .inr ⟨what, hwhat, rfl, _, j, (returns_spanFrom hlast start).bind _, hs⟩

end Agrees

lemma agrees_consume {late : Option String} (h : Stands ts e i rs) {kind : Token.Kind}
    (hkind : kind ≠ .eof) (what : String) :
    Agrees ts e late (takeToken e.span kind what rs) (consume ts kind what) i := by
  refine .of_returns (returns_current h) ?_
  unfold takeToken
  cases rs with
  | nil =>
    rw [List.headD_nil, if_neg fun ht => hkind (ht.symm.trans h.isEnd)]
    exact agrees_giveUp h what
  | cons t rs =>
    show Agrees ts e late (if _ then _ else _) (if t.kind = kind then _ else _) i
    by_cases ht : t.kind = kind
    · rw [if_pos ht, if_pos ht]
      exact ⟨i + 1, returns_advance h, h.tail, h.taken⟩
    · rw [if_neg ht, if_neg ht]
      exact agrees_giveUp h what

/-! ## Headers of definitions -/

section Headers

variable {late : Option String} {d : Nat}

lemma agrees_parseParams (h : Stands ts e i rs) (hd : rs.length < d) (n : Nat) :
    Agrees ts e late (readParams e.span n rs) (parseParams ts d n) i := by
  induction d generalizing i n rs late with
  | zero => exact absurd hd (Nat.not_lt_zero _)
  | succ d ih =>
    rw [readParams, parseParams]
    refine (agrees_consume h (by decide) "type").bind_strict fun type j _ hs _ => ?_
    refine (agrees_consume hs (by decide) "identifier").bind_strict fun name j _ hs _ => ?_
    dsimp only
    split
    · rename_i hnext
      rw [show name.rest = [] from hnext] at hs
      exact ((agrees_giveUp hs _).refuses_end hs (by decide)).refuses_end hs (by decide)
    · rename_i t rest hnext
      have shorter : rest.length < rs.length := by
        have := (type.trans name (Param.ofTokens n)).shorter
        rw [hnext] at this
        exact Nat.lt_of_succ_lt this
      rw [show name.rest = t :: rest from hnext] at hs
      split
      · rename_i ht
        exact .accepts hs ht (agrees_done hs.tail hs.taken)
      · rename_i hparen
        refine .refuses hs hparen ?_
        split
        · rename_i ht
          refine .accepts hs ht ?_
          refine (ih hs.tail (by omega) (n + 1)).bind_strict fun more j _ hs hl => ?_
          exact agrees_done hs hl
        · rename_i hcomma
          exact .refuses hs hcomma (agrees_giveUp hs _)

lemma agrees_parseParamList (h : Stands ts e i rs) (hd : rs.length < d) :
    Agrees ts e late (readParamList e.span rs) (parseParamList ts d) i := by
  unfold readParamList parseParamList
  split
  · exact (agrees_parseParams h hd 0).refuses_end h (by decide)
  · split
    · rename_i ht
      exact .accepts h ht (agrees_done h.tail h.taken)
    · rename_i ht
      exact .refuses h ht (agrees_parseParams h hd 0)

lemma agrees_parseReturnClause (h : Stands ts e i rs) :
    Agrees ts e late (readReturnClause e.span rs) (parseReturnClause ts) i := by
  unfold readReturnClause parseReturnClause
  split
  · exact ((agrees_giveUp h _).refuses_end h (by decide)).refuses_end h (by decide)
  · split
    · rename_i ht
      refine .accepts h ht ?_
      refine (agrees_consume h.tail (by decide) "type").bind_strict fun type j _ hs _ => ?_
      refine (agrees_consume hs (by decide) "brace").bind_strict fun brace j _ hs hl => ?_
      exact agrees_done hs hl
    · rename_i harrow
      refine .refuses h harrow ?_
      split
      · rename_i ht
        exact .accepts h ht (agrees_done h.tail h.taken)
      · rename_i hbrace
        exact .refuses h hbrace (agrees_giveUp h _)

lemma agrees_parseHeader (h : Stands ts e i rs) (hd : rs.length < d) :
    Agrees ts e late (readHeader e.span rs) (parseHeader ts d) i := by
  unfold readHeader parseHeader
  refine (agrees_consume h (by decide) "identifier").bind_strict fun name j _ hs _ => ?_
  refine (agrees_consume hs (by decide) "'('").bind_strict fun paren j _ hs _ => ?_
  have shorter := (paren.shorter.trans name.shorter).trans hd
  refine (agrees_parseParamList hs shorter).bind_strict fun params j _ hs _ => ?_
  refine (agrees_parseReturnClause hs).bind_strict fun returnType j _ hs hl => ?_
  exact agrees_done hs hl

end Headers

/-! ## Expressions and statements -/

/-- On these tokens, the readers by index that others call agree with the others, given that calls
may be nested deep enough. -/
structure Agreeing (ts : List Token) (e : Token) (rs : List Token) : Prop where
  expr : ∀ i d, Stands ts e i rs → 4 * rs.length + 2 ≤ d → ∀ follow,
    Agrees ts e (some follow) (readExpr e.span follow rs) (parseExpr ts d false) i
  args : ∀ i d, Stands ts e i rs → 4 * rs.length + 3 ≤ d →
    Agrees ts e none (readArgs e.span rs) (parseArgs ts d) i
  body : ∀ i d, Stands ts e i rs → 4 * rs.length + 3 ≤ d →
    Agrees ts e none (readBody e.span rs) (parseBlock ts d) i

section Readers

variable {start : Token} {d : Nat}

lemma agrees_parseChain (h : Stands ts e i rs) (hd : 4 * rs.length ≤ d)
    (hstart : ts[i - 1]? = some start) (ih : ∀ u us, rs = u :: us → Agreeing ts e us)
    (follow : String) : Agrees ts e (some follow) (readChain e.span follow start rs)
      (parseChain ts (d + 1) start) i := by
  rw [readChain.eq_def, parseChain]
  -- the symbol is looked at before it is known to be one
  refine .of_returns (returns_current h) ?_
  cases rs with
  | nil => exact Agrees.refuses_end h (by decide) ⟨i, rfl, h, hstart⟩
  | cons u us =>
    rw [List.length_cons] at hd
    dsimp only [List.headD_cons]
    split
    · rename_i hu
      refine .accepts h hu ?_
      cases Connective.ofSymbol? u.payload.display with
      | none => exact .inl rfl
      | some c =>
        exact ((ih u us rfl).expr _ _ h.tail (by omega) follow).node start (fun _ => rfl)
          (fun _ => rfl) fun _ => rfl
    · rename_i hu
      exact .refuses h hu ⟨i, rfl, h, hstart⟩

lemma agrees_parseArgList (h : Stands ts e i rs)
    (hargs : Agrees ts e none (readArgs e.span rs) (parseArgs ts d) i) :
    Agrees ts e none (readArgList e.span rs) (parseArgList ts (d + 1)) i := by
  rw [readArgList.eq_def, parseArgList]
  cases rs with
  | nil => exact hargs.refuses_end h (by decide)
  | cons t rest =>
    dsimp only
    split
    · rename_i ht
      exact .accepts h ht (agrees_done h.tail h.taken)
    · rename_i ht
      exact .refuses h ht hargs

/-- An argument that is made up at the end of input is given up by what looks behind it. -/
lemma agrees_parseArgs (hd : 4 * rs.length + 2 ≤ d)
    (hexpr : Agrees ts e (some "comma, or ')'") (readExpr e.span "comma, or ')'" rs)
      (parseExpr ts d false) i)
    (ih : ∀ us : List Token, us.length < rs.length → Agreeing ts e us) :
    Agrees ts e none (readArgs e.span rs) (parseArgs ts (d + 1)) i := by
  rw [readArgs, parseArgs]
  refine hexpr.bind (fun arg j _ hs _ => ?_) fun what hwhat arg j hs => ?_
  · split
    · rename_i hnext
      rw [hnext] at hs
      exact (((agrees_giveUp hs _).behind _).refuses_end hs (by decide)).refuses_end hs (by decide)
    · rename_i t rest hnext
      rw [hnext] at hs
      split
      · rename_i ht
        exact .accepts hs ht (agrees_done hs.tail hs.taken)
      · rename_i hparen
        refine .refuses hs hparen ?_
        split
        · rename_i ht
          have shorter : rest.length < rs.length := by
            have := arg.shorter
            rw [hnext] at this
            exact Nat.lt_of_succ_lt this
          have onward := (ih rest shorter).args _ d hs.tail (by omega)
          refine .accepts hs ht ((onward.behind _).bind_strict fun more j _ hs hl => ?_)
          exact agrees_done hs hl
        · rename_i hcomma
          exact .refuses hs hcomma ((agrees_giveUp hs _).behind _)
  · -- neither `)` nor `,` is behind an argument that was made up
    obtain rfl : "comma, or ')'" = what := Option.some.inj hwhat
    have hgive : Agrees ts e none (.error (missing e.span "comma, or ')'" []) :
        Except Stop (Reading (List Expr) [])) (giveUp ts "comma, or ')'") j := agrees_giveUp hs _
    exact (hgive.refuses_end hs (by decide)).refuses_end hs (by decide)

lemma agrees_parseDefinition (h : Stands ts e i rs) (hd : 4 * rs.length + 2 ≤ d)
    (ih : ∀ us : List Token, us.length < rs.length → Agreeing ts e us) (start : Token) :
    Agrees ts e none (readDefinition e.span start rs) (do
      let header ← parseHeader ts d
      let body ← parseBlock ts d
      return .define header.name header.params body header.returnType (← spanFrom ts start)) i := by
  rw [readDefinition]
  refine (agrees_parseHeader h (by omega)).bind_strict fun header j _ hs _ => ?_
  have shorter := header.shorter
  exact ((ih _ shorter).body j d hs (by omega)).node start (fun _ => rfl) (fun _ => rfl)
    fun _ => rfl

/-- What the reader of an expression that starts with `t` leaves to others at the end of input. -/
def lateBehind (t : Token) (follow : String) : Option String :=
  if t.kind = .func then none else some follow

lemma agrees_parseBehind (h : Stands ts e i (t :: rs)) (hd : 4 * rs.length + 2 ≤ d)
    (ih : ∀ us : List Token, us.length < (t :: rs).length → Agreeing ts e us) (follow : String) :
    Agrees ts e (lateBehind t follow) (readExpr e.span follow (t :: rs))
      (parseBehind ts (d + 1) t) (i + 1) := by
  have honward (u : Token) (us : List Token) (hrs : rs = u :: us) : Agreeing ts e us := by
    refine ih us ?_
    rw [hrs, List.length_cons, List.length_cons]
    omega
  have hrest : Agreeing ts e rs := ih rs (Nat.lt_succ_self _)
  -- this call is one level, and what reads on behind the operand is another one
  obtain ⟨k, rfl⟩ : ∃ k, d = k + 2 := ⟨d - 2, by omega⟩
  have hchain := agrees_parseChain h.tail (d := k + 1) (by omega) h.taken honward follow
  rw [readExpr.eq_def, parseBehind, lateBehind]
  dsimp only
  cases t.kind with
  | ret =>
    exact (hrest.expr _ _ h.tail hd follow).node t (fun _ => rfl) (fun _ => rfl) fun _ => rfl
  | identifier =>
    cases rs with
    | nil =>
      rw [readChain] at hchain
      exact (hchain.refuses_end h.tail (by decide)).refuses_end h.tail (by decide)
    | cons u us =>
      rw [List.length_cons] at hd
      dsimp only
      by_cases hassign : u.kind = .assign
      · rw [if_pos hassign]
        refine .accepts h.tail hassign ?_
        exact ((honward u us rfl).expr _ _ h.tail.tail (by omega) follow).node t (fun _ => rfl)
          (fun _ => rfl) fun _ => rfl
      rw [if_neg hassign]
      refine .refuses h.tail hassign ?_
      by_cases hparen : u.kind = .leftParen
      · rw [if_pos hparen]
        refine .accepts h.tail hparen ?_
        have hargs := (honward u us rfl).args _ (k + 1) h.tail.tail (by omega)
        exact (agrees_parseArgList h.tail.tail hargs).weaken.node t (fun _ => rfl) (fun _ => rfl)
          fun _ => rfl
      · rw [if_neg hparen]
        exact .refuses h.tail hparen hchain
  | intLiteral => exact hchain
  | boolLiteral => exact agrees_done h.tail h.taken
  | stringLiteral => exact agrees_done h.tail h.taken
  | func =>
    have ih' (us : List Token) (hus : us.length < rs.length) : Agreeing ts e us :=
      ih us (Nat.lt_succ_of_lt hus)
    exact agrees_parseDefinition h.tail hd ih' t
  | _ => exact agrees_done h.tail h.taken

lemma parseExpr_false (ts : List Token) (d : Nat) :
    parseExpr ts (d + 1) false = (do let start ← advance ts; parseBehind ts d start) := by
  rw [parseExpr]
  simp

/-- At the end of input, what is read is an error leaf. -/
lemma returns_parseBehind_end (h : Stands ts e i []) :
    Returns (parseBehind ts (d + 1) e) i (.leaf e.asError e.span) i := by
  rw [parseBehind, h.isEnd]
  rfl

lemma agrees_parseExpr (h : Stands ts e i rs) (hd : 4 * rs.length + 2 ≤ d)
    (ih : ∀ us : List Token, us.length < rs.length → Agreeing ts e us) (follow : String) :
    Agrees ts e (some follow) (readExpr e.span follow rs) (parseExpr ts d false) i := by
  obtain ⟨k, rfl⟩ : ∃ k, d = k + 2 := ⟨d - 2, by omega⟩
  rw [parseExpr_false]
  cases rs with
  | nil =>
    rw [readExpr]
    have hleaf := returns_parseBehind_end (d := k) h
    exact .inr ⟨follow, rfl, rfl, _, i, ((returns_advance_end h).bind _).trans hleaf, h⟩
  | cons t rest =>
    rw [List.length_cons] at hd
    refine .of_returns (returns_advance h) ?_
    have hbehind := agrees_parseBehind h (d := k) (by omega) ih follow
    unfold lateBehind at hbehind
    split at hbehind
    · exact hbehind.weaken
    · exact hbehind

/-- The expressions that start with `func` are the definitions. -/
lemma isDefinition_iff {a : Expr} (h : Derives (.expr a) (t :: us)) :
    a.isDefinition = true ↔ t.kind = .func := by
  cases h with
  | ret ht | assign ht | callEmpty ht | call ht => simp [Expr.isDefinition, ht]
  | @chain _ _ _ _ c ht =>
    have hne : t.kind ≠ .func := by rcases ht with ht | ht <;> rw [ht] <;> decide
    cases c <;> simp [Expr.join, Expr.isDefinition, hne]
  | operand ht | stray ht =>
    refine iff_of_false (by simp [Expr.isDefinition]) fun hk => ?_
    rw [hk] at ht
    cases ht
  | define ht => simp [Expr.isDefinition, ht]

lemma agrees_statement (h : Stands ts e i (t :: rs)) (hd : 4 * (t :: rs).length + 2 ≤ d)
    (ih : ∀ us : List Token, us.length < (t :: rs).length → Agreeing ts e us) :
    Agrees ts e none (readStatement e.span (t :: rs)) (parseExpr ts d true) i := by
  rw [List.length_cons] at hd
  obtain ⟨k, rfl⟩ : ∃ k, d = k + 2 := ⟨d - 2, by omega⟩
  rw [readStatement, parseExpr]
  refine .of_returns (returns_advance h) ?_
  have hreads := (sound h.endless).expr e.span "semicolon"
  refine (agrees_parseBehind h (by omega) ih "semicolon").bind (fun a j ha hs hl => ?_) ?_
  · rw [ha] at hreads
    obtain ⟨us, hus, -, hd⟩ := hreads.took
    obtain ⟨u, us, rfl⟩ := List.exists_cons_of_ne_nil (hd.ne_nil rfl)
    obtain ⟨rfl, -⟩ := List.cons.inj hus
    have hdef := isDefinition_iff hd
    by_cases hkind : t.kind = .func
    · rw [if_pos (hdef.2 hkind), if_neg fun hk => hk.2 hkind]
      exact agrees_done hs hl
    · rw [if_neg (mt hdef.1 hkind), if_pos ⟨rfl, hkind⟩]
      refine ((agrees_consume hs (by decide) _).behind _).bind_strict fun semicolon j _ hs hl => ?_
      exact agrees_done hs hl
  · -- only what does not start with `func` is late, and then there is no semicolon
    intro what hwhat a j hs
    unfold lateBehind at hwhat
    split at hwhat
    · cases hwhat
    · rename_i hkind
      obtain rfl : "semicolon" = what := Option.some.inj hwhat
      rw [if_pos ⟨rfl, hkind⟩]
      have hsemicolon : Agrees ts e none (takeToken e.span .semicolon "semicolon" [])
          (consume ts .semicolon "semicolon") j := agrees_consume hs (by decide) _
      exact .inl (hsemicolon.throws.bind _)

lemma agrees_parseBlock (h : Stands ts e i rs) (hd : 4 * rs.length + 2 ≤ d)
    (ih : ∀ us : List Token, us.length < rs.length → Agreeing ts e us) :
    Agrees ts e none (readBody e.span rs) (parseBlock ts (d + 1)) i := by
  rw [readBody.eq_def, parseBlock]
  cases rs with
  | nil =>
    refine .refuses_end h (by decide) (.of_returns (returns_current h) ?_)
    rw [List.headD_nil, if_pos h.isEnd]
    exact agrees_giveUp h _
  | cons t rest =>
    dsimp only
    split
    · rename_i ht
      exact .accepts h ht (agrees_done h.tail h.taken)
    · rename_i ht
      refine .refuses h ht (.of_returns (returns_current h) ?_)
      rw [List.headD_cons, if_neg h.kind_ne]
      refine (agrees_statement h hd ih).bind_strict fun first j _ hs _ => ?_
      have shorter := first.shorter
      have onward := (ih _ shorter).body j d hs (by omega)
      refine (onward.behind _).bind_strict fun more j _ hs hl => ?_
      exact agrees_done hs hl

/-- **Reading by index agrees with reading.** -/
theorem agreeing (ts : List Token) (e : Token) (rs : List Token) : Agreeing ts e rs := by
  induction hlen : rs.length using Nat.strongRecOn generalizing rs with
  | ind n ih =>
    subst hlen
    have ih' (us : List Token) (hus : us.length < rs.length) : Agreeing ts e us := ih _ hus us rfl
    -- arguments begin with an expression, which is read from as many tokens one level deeper
    refine ⟨fun i d h hd => agrees_parseExpr h hd ih', fun i d h hd => ?args, fun i d h hd => ?body⟩
    case args =>
      obtain ⟨k, rfl⟩ : ∃ k, d = k + 1 := ⟨d - 1, by omega⟩
      exact agrees_parseArgs (by omega) (agrees_parseExpr h (by omega) ih' _) ih'
    case body =>
      obtain ⟨k, rfl⟩ : ∃ k, d = k + 1 := ⟨d - 1, by omega⟩
      exact agrees_parseBlock h (by omega) ih'

lemma agrees_parseStatements (h : Stands ts e i rs) (hd : 4 * rs.length + 2 < d) :
    ∃ j, (parseStatements ts d).run i =
      ((readStatements e.span rs).mapError fun s => .error s.error).map (·, j) := by
  induction d generalizing i rs with
  | zero => exact absurd hd (Nat.not_lt_zero _)
  | succ d ih =>
    rw [readStatements.eq_def, parseStatements, (returns_current h).bind]
    cases rs with
    | nil =>
      rw [List.headD_nil, if_pos h.isEnd]
      exact ⟨i, rfl⟩
    | cons t rest =>
      rw [List.headD_cons, if_neg h.kind_ne]
      have hfirst := agrees_statement h (Nat.le_of_lt_succ hd) fun us _ => agreeing ts e us
      dsimp only
      cases hread : readStatement e.span (t :: rest) with
      | error s =>
        rw [hread] at hfirst
        exact ⟨i, hfirst.throws.bind _⟩
      | ok first =>
        rw [hread] at hfirst
        obtain ⟨j, hj, hs, -⟩ := hfirst
        -- the next turn is one level deeper, and there are fewer tokens left
        have shorter := first.shorter
        obtain ⟨k, hk⟩ := ih hs (by omega)
        rw [hj.bind]
        refine ⟨k, ?_⟩
        show _ = ((Scriptlet.behind first.value (readStatements e.span first.rest) >>=
          fun more => .ok (first.value :: more)).mapError _).map _
        cases hmore : readStatements e.span first.rest with
        | error s =>
          rw [hmore] at hk
          exact Throws.bind hk _
        | ok more =>
          rw [hmore] at hk
          exact Returns.bind hk _

end Readers

/-! ## Programs -/

/-- The tokens in front of the first end of input. -/
abbrev beforeEnd (ts : List Token) : List Token := ts.takeWhile (·.kind ≠ .eof)

lemma endless_beforeEnd (ts : List Token) : Endless (beforeEnd ts) := by
  intro t ht
  simpa using List.mem_takeWhile_imp ht

/-- Whatever the tokens are, those in front of the first end of input are the first to be read. -/
lemma stands_withEnd (ts : List Token) :
    ∃ e, Stands (withEnd ts) e 0 (beforeEnd ts) ∧
      e.span = (ts.find? (·.kind = .eof)).bind (·.span) := by
  cases hfind : ts.find? (·.kind = .eof) with
  | none =>
    have hend : Endless ts := fun t ht => by simpa using List.find?_eq_none.1 hfind t ht
    have hcut : beforeEnd ts = ts :=
      List.takeWhile_eq_self_iff.2 fun t ht => by simpa using hend t ht
    -- an end of input is put behind the tokens, for the last of them is none
    have hlast : ts.getLast?.map Token.kind ≠ some .eof := by
      intro h
      obtain ⟨t, ht, hkind⟩ := Option.map_eq_some_iff.1 h
      exact hend t (List.mem_of_getLast? ht) hkind
    rw [hcut, withEnd, if_neg hlast]
    exact ⟨{ kind := .eof }, ⟨hend, rfl, [], rfl⟩, rfl⟩
  | some e =>
    obtain ⟨he, us, vs, rfl, hus⟩ := List.find?_eq_some_iff_append.1 hfind
    have hisEnd : e.kind = .eof := by simpa using he
    have hend : Endless us := fun t ht => by simpa using hus t ht
    have hcut : beforeEnd (us ++ e :: vs) = us := by
      rw [beforeEnd, List.takeWhile_append_of_pos fun t ht => by simpa using hend t ht]
      simp [hisEnd]
    rw [hcut]
    refine ⟨e, ⟨hend, hisEnd, ?_⟩, rfl⟩
    unfold withEnd
    split
    · exact ⟨vs, rfl⟩
    · exact ⟨vs ++ [{ kind := .eof }], by simp⟩

/-- **Reading a program by index ends, within the tokens, with what reading it comes to**, if calls
may be nested four times as deep as there are tokens, and three deeper. -/
theorem parse_eq (ts : List Token) {d : Nat} (hd : 4 * ts.length + 3 ≤ d) :
    parse d ts = (readProgram ts).mapError fun s => .error s.error := by
  obtain ⟨e, hs, he⟩ := stands_withEnd ts
  have hlen : (beforeEnd ts).length ≤ ts.length := (List.takeWhile_prefix _).length_le
  obtain ⟨j, hj⟩ := agrees_parseStatements hs (d := d) (by omega)
  rw [he] at hj
  unfold parse readProgram
  rw [StateT.run'_eq, hj]
  dsimp only
  cases readStatements ((ts.find? (·.kind = .eof)).bind (·.span)) (beforeEnd ts) with
  | error s => rfl
  | ok es => rfl

-- the leaf that is made up behind `return` is given up by what looks for the semicolon
example : parse 11 [{ kind := .ret }, { kind := .eof }] =
    .error (.error (.located (.unexpectedEnd "semicolon") none)) := rfl

-- what stands behind an end of input is not read
example : parse 19 [{ kind := .comma }, { kind := .semicolon }, { kind := .eof }, { kind := .ret }]
    = .ok [.leaf { kind := .error } none] := rfl

end Scriptlet.Cursor
