import Scriptlet.Proofs.Grammar.Completeness

/-!
# Where tokens cannot go on

`Stuck g ts next c` says that the tokens `ts` are the start of a phrase of the sort `g`, but that
the token `next`, or the end of the tokens if there is none, cannot stand behind them, because of
`c`.  It looks at no token behind `next`.  What was read so far can always be brought to an end in
some other way (`Stuck.completes`), so nothing was wrong before `next`.
-/

namespace Scriptlet.Grammar

/-- The next token is not of this kind. -/
def Misses (k : Token.Kind) (next : Option Token) : Prop := ∀ t ∈ next, t.kind ≠ k

lemma misses_nil {k : Token.Kind} : Misses k ([] : List Token).head? :=
  fun _ ht => nomatch ht

lemma misses_cons {k : Token.Kind} {t : Token} {rest : List Token} (h : t.kind ≠ k) :
    Misses k (t :: rest).head? := by
  rintro u ⟨⟩
  exact h

/-- What is wrong where something is missing. -/
def lacks (what : String) : Option Token → Cause
  | none => .unexpectedEnd what
  | some _ => .expected what

/-! ## Headers of definitions -/

/-- Parameters cannot go on. -/
inductive ParamsStuck : List Token → Option Token → Cause → Prop
  /-- No type. -/
  | type {next : Option Token} (h : Misses .typeName next) : ParamsStuck [] next (lacks "type" next)
  /-- `type`, and no name. -/
  | name {type : Token} {next : Option Token} (ht : type.kind = .typeName)
      (h : Misses .identifier next) : ParamsStuck [type] next (lacks "identifier" next)
  /-- `type name`, and neither a comma nor a closing parenthesis. -/
  | separator {type name : Token} {next : Option Token} (ht : type.kind = .typeName)
      (hn : name.kind = .identifier) (h : Misses .rightParen next) (h' : Misses .comma next) :
      ParamsStuck [type, name] next (lacks "comma, or ')'" next)
  /-- `type name ,` -/
  | more {type name comma : Token} {ts : List Token} {next : Option Token} {c : Cause}
      (ht : type.kind = .typeName) (hn : name.kind = .identifier) (hc : comma.kind = .comma)
      (h : ParamsStuck ts next c) : ParamsStuck (type :: name :: comma :: ts) next c

/-- The clause for the type of the results, or the brace behind it, cannot go on. -/
inductive ReturnStuck : List Token → Option Token → Cause → Prop
  /-- Neither `->` nor `{`. -/
  | clause {next : Option Token} (h : Misses .arrow next) (h' : Misses .leftBrace next) :
      ReturnStuck [] next (lacks "return type or brace" next)
  /-- `->`, and no type. -/
  | type {arrow : Token} {next : Option Token} (ha : arrow.kind = .arrow)
      (h : Misses .typeName next) : ReturnStuck [arrow] next (lacks "type" next)
  /-- `-> type`, and no brace. -/
  | brace {arrow type : Token} {next : Option Token} (ha : arrow.kind = .arrow)
      (ht : type.kind = .typeName) (h : Misses .leftBrace next) :
      ReturnStuck [arrow, type] next (lacks "brace" next)

/-- The header of a definition cannot go on. -/
inductive HeadStuck : List Token → Option Token → Cause → Prop
  /-- No name. -/
  | name {next : Option Token} (h : Misses .identifier next) :
      HeadStuck [] next (lacks "identifier" next)
  /-- `name`, and no parenthesis. -/
  | paren {name : Token} {next : Option Token} (hn : name.kind = .identifier)
      (h : Misses .leftParen next) : HeadStuck [name] next (lacks "'('" next)
  /-- `name (` -/
  | params {name left : Token} {ts : List Token} {next : Option Token} {c : Cause}
      (hn : name.kind = .identifier) (hl : left.kind = .leftParen) (h : ParamsStuck ts next c)
      (hb : ¬ Begins .rightParen (ts ++ next.toList)) : HeadStuck (name :: left :: ts) next c
  /-- `name ( params )` -/
  | returnType {name left right : Token} {ts us : List Token} {ps : List Param}
      {next : Option Token} {c : Cause} (hn : name.kind = .identifier) (hl : left.kind = .leftParen)
      (hp : ParamList ts ps) (hr : right.kind = .rightParen) (h : ReturnStuck us next c) :
      HeadStuck (name :: left :: (ts ++ right :: us)) next c

/-! ## Phrases -/

/-- What readers are after. -/
inductive Goal where
  /-- An expression, behind which `follow` is expected. -/
  | expr (follow : String)
  /-- Arguments, one at least. -/
  | args
  /-- A statement. -/
  | statement
  /-- The statements of a body. -/
  | body
  /-- The statements of a program. -/
  | program

open Goal

/-- The tokens `ts` cannot go on with `next`, because of the cause. -/
inductive Stuck : Goal → List Token → Option Token → Cause → Prop
  /-- Where the tokens end, an expression lacks what is expected behind it. -/
  | exprEnd {follow : String} : Stuck (expr follow) [] none (.unexpectedEnd follow)
  /-- `return` -/
  | ret {t : Token} {ts : List Token} {next : Option Token} {c : Cause} {follow : String}
      (ht : t.kind = .ret) (h : Stuck (expr follow) ts next c) :
      Stuck (expr follow) (t :: ts) next c
  /-- `name :=` -/
  | assign {t u : Token} {ts : List Token} {next : Option Token} {c : Cause} {follow : String}
      (ht : t.kind = .identifier) (hu : u.kind = .assign) (h : Stuck (expr follow) ts next c) :
      Stuck (expr follow) (t :: u :: ts) next c
  /-- `name (` -/
  | call {t u : Token} {ts : List Token} {next : Option Token} {c : Cause} {follow : String}
      (ht : t.kind = .identifier) (hu : u.kind = .leftParen) (h : Stuck args ts next c)
      (hb : ¬ Begins .rightParen (ts ++ next.toList)) : Stuck (expr follow) (t :: u :: ts) next c
  /-- An operand, and an operator token that is no operator. -/
  | unknown {t u : Token} {follow : String} (ht : t.kind = .identifier ∨ t.kind = .intLiteral)
      (hu : u.kind = .operator) (hc : Connective.ofSymbol? u.payload.display = none) :
      Stuck (expr follow) [t] (some u) (.unknownOperator u.payload.display)
  /-- An operand and an operator. -/
  | chain {t u : Token} {ts : List Token} {next : Option Token} {c : Cause} {d : Connective}
      {follow : String} (ht : t.kind = .identifier ∨ t.kind = .intLiteral) (hu : u.kind = .operator)
      (hd : Connective.ofSymbol? u.payload.display = some d) (h : Stuck (expr follow) ts next c) :
      Stuck (expr follow) (t :: u :: ts) next c
  /-- `func` -/
  | head {t : Token} {ts : List Token} {next : Option Token} {c : Cause} {follow : String}
      (ht : t.kind = .func) (h : HeadStuck ts next c) : Stuck (expr follow) (t :: ts) next c
  /-- `func head` -/
  | define {t : Token} {us ts : List Token} {head : Header} {next : Option Token} {c : Cause}
      {follow : String} (ht : t.kind = .func) (hh : Head us head) (h : Stuck body ts next c) :
      Stuck (expr follow) (t :: (us ++ ts)) next c
  /-- The argument that stands here. -/
  | firstArg {ts : List Token} {next : Option Token} {c : Cause}
      (h : Stuck (expr "comma, or ')'") ts next c) : Stuck args ts next c
  /-- `expr`, and neither a comma nor a closing parenthesis. -/
  | separator {ts : List Token} {e : Expr} {next : Option Token} (he : Derives (.expr e) ts)
      (hn : Leaves e next) (h : Misses .rightParen next) (h' : Misses .comma next) :
      Stuck args ts next (lacks "comma, or ')'" next)
  /-- `expr ,` -/
  | moreArgs {t : Token} {us ts : List Token} {e : Expr} {next : Option Token} {c : Cause}
      (he : Derives (.expr e) us) (ht : t.kind = .comma) (h : Stuck args ts next c) :
      Stuck args (us ++ t :: ts) next c
  /-- The expression of a statement. -/
  | statement {ts : List Token} {next : Option Token} {c : Cause}
      (h : Stuck (expr "semicolon") ts next c) : Stuck statement ts next c
  /-- `expr`, and no semicolon. -/
  | semicolon {ts : List Token} {e : Expr} {next : Option Token} (he : Derives (.expr e) ts)
      (hd : e.isDefinition = false) (hn : Leaves e next) (h : Misses .semicolon next) :
      Stuck statement ts next (lacks "semicolon" next)
  /-- A body that is not closed. -/
  | bodyEnd : Stuck body [] none (.unexpectedEnd "'\x7d'")
  /-- The statement that stands here, in a body. -/
  | firstOfBody {ts : List Token} {next : Option Token} {c : Cause} (h : Stuck statement ts next c)
      (hne : ts ++ next.toList ≠ []) (hb : ¬ Begins .rightBrace (ts ++ next.toList)) :
      Stuck body ts next c
  /-- `statement`, in a body. -/
  | moreOfBody {us ts : List Token} {e : Expr} {next : Option Token} {c : Cause}
      (he : Derives (.statement e) us) (hb : ¬ Begins .rightBrace us) (h : Stuck body ts next c) :
      Stuck body (us ++ ts) next c
  /-- The statement that stands here, in a program. -/
  | firstOfProgram {ts : List Token} {next : Option Token} {c : Cause}
      (h : Stuck statement ts next c) (hne : ts ++ next.toList ≠ []) : Stuck program ts next c
  /-- `statement`, in a program. -/
  | moreOfProgram {us ts : List Token} {e : Expr} {next : Option Token} {c : Cause}
      (he : Derives (.statement e) us) (h : Stuck program ts next c) :
      Stuck program (us ++ ts) next c

/-! ## Completions

Whatever is missing, a name, a type or a symbol can stand there. -/

/-- Some name. -/
def aName : Token := .ofText .identifier "x"

/-- Some type. -/
def aType : Token := .ofText .typeName "int"

lemma ParamsStuck.completes {ts : List Token} {next : Option Token} {c : Cause}
    (h : ParamsStuck ts next c) (n : Nat) : ∃ more ps, Params n (ts ++ more) ps := by
  induction h generalizing n with
  | type => exact ⟨[aType, aName], _, .last rfl rfl⟩
  | name ht => exact ⟨[aName], _, .last ht rfl⟩
  | separator ht hn => exact ⟨[], _, .last ht hn⟩
  | more ht hn hc _ ih =>
    obtain ⟨more, ps, hps⟩ := ih (n + 1)
    exact ⟨more, _, .more ht hn hc hps⟩

lemma ReturnStuck.completes {ts : List Token} {next : Option Token} {c : Cause}
    (h : ReturnStuck ts next c) : ∃ more r, ReturnClause (ts ++ more) r := by
  cases h with
  | clause => exact ⟨[], _, .none⟩
  | type ha => exact ⟨[aType], _, .some ha rfl⟩
  | brace ha ht => exact ⟨[], _, .some ha ht⟩

lemma HeadStuck.completes {ts : List Token} {next : Option Token} {c : Cause}
    (h : HeadStuck ts next c) : ∃ more head, Head (ts ++ more) head := by
  let left : Token := .ofText .leftParen "("
  let right : Token := .ofText .rightParen ")"
  let brace : Token := .ofText .leftBrace "\x7b"
  have hright : right.kind = .rightParen := rfl
  have hbrace : brace.kind = .leftBrace := rfl
  have hnothing {name l : Token} (hn : name.kind = .identifier) (hl : l.kind = .leftParen) :
      Head [name, l, right, brace] ⟨name.payload.display, [], "_none"⟩ :=
    .mk hn hl .none hright .none hbrace
  cases h with
  | name => exact ⟨[aName, left, right, brace], _, hnothing rfl rfl⟩
  | paren hn => exact ⟨[left, right, brace], _, hnothing hn rfl⟩
  | params hn hl h =>
    obtain ⟨more, ps, hps⟩ := h.completes 0
    have hhead := Head.mk hn hl (.some hps) hright .none hbrace
    exact ⟨more ++ [right, brace], _, by simpa using hhead⟩
  | returnType hn hl hp hr h =>
    obtain ⟨more, r, hmore⟩ := h.completes
    have hhead := Head.mk hn hl hp hr hmore hbrace
    exact ⟨more ++ [brace], _, by simpa using hhead⟩

/-- The tokens are a phrase of this sort. -/
def Goal.Accepts : Goal → List Token → Prop
  | expr _, ts => ∃ e, Derives (.expr e) ts
  | args, ts => ∃ es, Derives (.args es) ts
  | statement, ts => ∃ e, Derives (.statement e) ts
  | body, ts => ∃ es, Derives (.body es) ts
  | program, ts => ∃ es, Derives (.program es) ts

lemma Goal.Accepts.of_eq {g : Goal} {ts us : List Token} (h : g.Accepts us) (hus : ts = us) :
    g.Accepts ts :=
  hus ▸ h

/-- The first token stays the first. -/
lemma begins_append {k : Token.Kind} {ts : List Token} (hne : ts ≠ []) (us : List Token) :
    Begins k (ts ++ us) ↔ Begins k ts := by
  obtain ⟨t, ts, rfl⟩ := List.exists_cons_of_ne_nil hne
  rw [List.cons_append, begins_cons, begins_cons]

lemma not_begins_append {k : Token.Kind} {ts us vs : List Token}
    (h : ¬ Begins k (ts ++ us)) (hvs : ts = [] → ¬ Begins k vs) : ¬ Begins k (ts ++ vs) := by
  by_cases hts : ts = []
  · rw [hts, List.nil_append]
    exact hvs hts
  · rwa [begins_append hts] at h ⊢

/-- **What cannot go on with the next token can go on with others.**  Where nothing was read yet, no
closing parenthesis or brace is needed for that. -/
theorem Stuck.completes {g : Goal} {ts : List Token} {next : Option Token} {c : Cause}
    (h : Stuck g ts next c) :
    ∃ more, g.Accepts (ts ++ more) ∧ (ts = [] → ∀ k, k ≠ .identifier → ¬ Begins k more) := by
  let right : Token := .ofText .rightParen ")"
  let brace : Token := .ofText .rightBrace "\x7d"
  induction h with
  | exprEnd =>
    exact ⟨[aName], ⟨_, .operand rfl⟩, fun _ k hk h => hk (begins_cons.1 h).symm⟩
  | ret ht _ ih =>
    obtain ⟨more, ⟨e, he⟩, -⟩ := ih
    exact ⟨more, ⟨_, .ret ht he⟩, fun h => nomatch h⟩
  | assign ht hu _ ih =>
    obtain ⟨more, ⟨e, he⟩, -⟩ := ih
    exact ⟨more, ⟨_, .assign ht hu he⟩, fun h => nomatch h⟩
  | call ht hu _ hb ih =>
    obtain ⟨more, ⟨es, hes⟩, hmore⟩ := ih
    have hb' := not_begins_append hb fun hts => hmore hts _ (by decide)
    refine ⟨more ++ [right], ?_, fun h => nomatch h⟩
    exact Goal.Accepts.of_eq ⟨_, .call ht hu hes hb' (v := right) rfl⟩ (by simp)
  | unknown ht hu hc =>
    refine ⟨[], ⟨_, .operand ?_⟩, fun h => nomatch h⟩
    rcases ht with ht | ht <;> rw [ht] <;> rfl
  | chain ht hu hd _ ih =>
    obtain ⟨more, ⟨e, he⟩, -⟩ := ih
    exact ⟨more, ⟨_, .chain ht hu hd he⟩, fun h => nomatch h⟩
  | head ht h =>
    obtain ⟨more, head, hh⟩ := h.completes
    refine ⟨more ++ [brace], ?_, fun h => nomatch h⟩
    exact Goal.Accepts.of_eq ⟨_, .define ht hh .bodyEnd (v := brace) rfl⟩ (by simp)
  | define ht hh _ ih =>
    obtain ⟨more, ⟨es, hes⟩, -⟩ := ih
    refine ⟨more ++ [brace], ?_, fun h => nomatch h⟩
    exact Goal.Accepts.of_eq ⟨_, .define ht hh hes (v := brace) rfl⟩ (by simp)
  | firstArg _ ih =>
    obtain ⟨more, ⟨e, he⟩, hmore⟩ := ih
    exact ⟨more, ⟨_, .lastArg he⟩, hmore⟩
  | separator he =>
    exact ⟨[], Goal.Accepts.of_eq ⟨_, .lastArg he⟩ (by simp), fun _ _ _ h => nomatch h⟩
  | moreArgs he ht _ ih =>
    obtain ⟨more, ⟨es, hes⟩, -⟩ := ih
    refine ⟨more, ?_, fun h => absurd h (by simp)⟩
    exact Goal.Accepts.of_eq ⟨_, .moreArgs he ht hes⟩ (by simp)
  | statement _ ih =>
    obtain ⟨more, ⟨e, he⟩, hmore⟩ := ih
    refine ⟨more ++ e.ending, Goal.Accepts.of_eq ⟨_, he.statement⟩ (by simp), fun hts k hk => ?_⟩
    obtain ⟨t, us, rfl⟩ := List.exists_cons_of_ne_nil (show more ≠ [] from by
      rintro rfl
      exact he.ne_nil rfl (by rw [hts]; rfl))
    exact hmore hts k hk
  | semicolon he =>
    refine ⟨_, ⟨_, he.statement⟩, fun hts => absurd hts (he.ne_nil rfl)⟩
  | bodyEnd => exact ⟨[], ⟨_, .bodyEnd⟩, fun _ _ _ h => nomatch h⟩
  | firstOfBody _ _ hb ih =>
    obtain ⟨more, ⟨e, he⟩, hmore⟩ := ih
    have hb' := not_begins_append hb fun hts => hmore hts _ (by decide)
    exact ⟨more, Goal.Accepts.of_eq ⟨_, .bodyMore he hb' .bodyEnd⟩ (by simp), hmore⟩
  | moreOfBody he hb _ ih =>
    obtain ⟨more, ⟨es, hes⟩, -⟩ := ih
    refine ⟨more, Goal.Accepts.of_eq ⟨_, .bodyMore he hb hes⟩ (by simp), fun hts => ?_⟩
    exact absurd (List.append_eq_nil_iff.1 hts).1 (he.ne_nil rfl)
  | firstOfProgram _ _ ih =>
    obtain ⟨more, ⟨e, he⟩, hmore⟩ := ih
    exact ⟨more, Goal.Accepts.of_eq ⟨_, .programMore he .programEnd⟩ (by simp), hmore⟩
  | moreOfProgram he _ ih =>
    obtain ⟨more, ⟨es, hes⟩, -⟩ := ih
    refine ⟨more, Goal.Accepts.of_eq ⟨_, .programMore he hes⟩ (by simp), fun hts => ?_⟩
    exact absurd (List.append_eq_nil_iff.1 hts).1 (he.ne_nil rfl)

end Scriptlet.Grammar
