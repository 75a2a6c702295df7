import Scriptlet.Expr.Print
import Scriptlet.Proofs.Grammar.Bare
import Scriptlet.Proofs.Scanning.Spelling

/-!
# The layout of printed programs

The text of a tree spells tokens that are, up to places and texts, the tokens that the tree was read
from, without the clauses that name `_none` (`Derives.reprints`).  The proof follows the grammar;
what it adds to each rule is that tokens with no space between them do not run together, and that a
minus sign of a literal always stands where an operand is due.
-/

namespace Scriptlet

namespace Token

/-- The text of the tokens of a kind that has a single text. -/
def Kind.fixedText? : Kind → Option String
  | func => some "func"
  | ret => some "return"
  | assign => some ":="
  | arrow => some "->"
  | leftParen => some "("
  | rightParen => some ")"
  | leftBrace => some "\x7b"
  | rightBrace => some "\x7d"
  | comma => some ","
  | semicolon => some ";"
  | _ => none

lemma Lexed.text_eq {t : Token} (h : Lexed t) {k : Kind} {s : String} (hk : t.kind = k)
    (hs : k.fixedText? = some s) : t.text = s := by
  subst hk
  cases h with
  | @word w span hw =>
    rw [text_ofWord]
    obtain ⟨rfl, h⟩ | ⟨rfl, h⟩ | ⟨b, -, h⟩ | ⟨-, h⟩ | h := classifyWord_cases w
    · exact Option.some.inj hs
    · exact Option.some.inj hs
    all_goals
      rw [ofWord, h] at hs
      cases hs
  | int | string => cases hs
  | symbol h =>
    rw [text_of_mem_symbols h]
    have hall : ∀ x ∈ symbols, x.2.fixedText? = none ∨ x.2.fixedText? = some x.1 := by decide
    rcases hall _ h with hnone | hsome
    · cases hnone.symm.trans hs
    · exact Option.some.inj (hsome.symm.trans hs)

lemma text_eq_display {t : Token}
    (h : t.kind = .identifier ∨ t.kind = .typeName ∨ t.kind = .operator) :
    t.text = t.payload.display := by
  rcases h with h | h | h <;> simp [text, h]

lemma Lexed.isNegative_eq_false {t : Token} (h : Lexed t) (hk : t.kind ≠ .intLiteral) :
    t.isNegative = false := by
  cases h with
  | @word w span hw =>
    obtain ⟨-, h⟩ | ⟨-, h⟩ | ⟨b, -, h⟩ | ⟨-, h⟩ | h := classifyWord_cases w <;>
      simp [isNegative, ofWord, h]
  | int => exact absurd rfl hk
  | string | symbol => rfl

lemma Lexed.text_asError {t : Token} (h : Lexed t) (ht : Grammar.isStray t.kind = true) :
    t.asError.text = t.text := by
  cases h with
  | @word w span hw =>
    have hne : w ≠ "" := by
      rintro rfl
      obtain ⟨c, ds, h, -⟩ := hw
      cases h
    rw [text_ofWord]
    simp [text, asError, ofWord, hne]
  | int | string => cases ht
  | symbol h =>
    have hall : ∀ x ∈ symbols, x.1 ≠ "" := by decide
    rw [text_of_mem_symbols h]
    simp [text, asError, hall _ h]

section Spells

variable {before : Option Kind} {t : Token} {cs : List Char} {ts : List Token}

/-- A token that is no integer literal, and what follows it. -/
lemma Spells.cons (ht : Lexed t) {k : Kind} (hk : t.kind = k) (hint : k ≠ .intLiteral)
    (hsep : k = .leftParen ∨ Separated cs) (h : Spells (some k) cs ts) :
    Spells before (t.text.toList ++ cs) (t :: ts) := by
  subst hk
  refine .token ht hsep (fun hneg => ?_) h
  rw [ht.isNegative_eq_false hint] at hneg
  cases hneg

/-- A token of a kind with a single text, and what follows it. -/
lemma Spells.fixed (ht : Lexed t) {k : Kind} (hk : t.kind = k) {s : String}
    (hs : k.fixedText? = some s) (hsep : k = .leftParen ∨ Separated cs)
    (h : Spells (some k) cs ts) : Spells before (s.toList ++ cs) (t :: ts) := by
  rw [← ht.text_eq hk hs]
  refine .cons ht hk (fun hint => ?_) hsep h
  rw [hint] at hs
  cases hs

lemma separated_nil : Separated [] := nofun

end Spells

end Token

namespace Grammar

open Token

/-! ## Headers of definitions -/

lemma Params.le_index {n : Nat} {ts : List Token} {ps : List Param} (h : Params n ts ps) :
    ∀ p ∈ ps, (n : Int) ≤ p.index := by
  induction h with
  | last => simp [Param.ofTokens]
  | more _ _ _ _ ih =>
    refine List.forall_mem_cons.2 ⟨by simp [Param.ofTokens], fun p hp => ?_⟩
    have := ih p hp
    omega

/-- Parameters are read in the order of their places. -/
lemma Params.inOrder {n : Nat} {ts : List Token} {ps : List Param} (h : Params n ts ps) :
    Param.inOrder ps = ps := by
  refine List.mergeSort_of_pairwise ?_
  induction h with
  | last => simp
  | @more n type name comma ts ps _ _ _ h ih =>
    refine List.pairwise_cons.2 ⟨fun p hp => ?_, ih⟩
    have hlt : (n : Int) < p.index := by
      have := h.le_index p hp
      omega
    simp [Param.precedes, Param.key, Param.ofTokens, hlt]

lemma Params.spells {n : Nat} {ts : List Token} {ps : List Param} (h : Params n ts ps)
    (hl : ∀ t ∈ ts, Lexed t) (before : Option Kind) :
    Spells before (", ".intercalate (ps.map Expr.paramText)).toList ts := by
  induction h generalizing before with
  | @last n type name ht hn =>
    have htext : (", ".intercalate (([.ofTokens n type name] : List Param).map
        Expr.paramText)).toList = type.text.toList ++ ' ' :: (name.text.toList ++ []) := by
      rw [text_eq_display (.inl hn)]
      simp [Expr.paramText, Param.ofTokens]
    rw [htext]
    refine .cons (hl type (by simp)) ht (by decide) (.inr (separated_cons rfl)) ?_
    refine .space (.inl rfl) ?_
    exact .cons (hl name (by simp)) hn (by decide) (.inr separated_nil) .nil
  | @more n type name comma ts ps ht hn hc h ih =>
    have hne : ps.map Expr.paramText ≠ [] := by
      cases h <;> simp
    have htext : (", ".intercalate ((Param.ofTokens n type name :: ps).map
        Expr.paramText)).toList = type.text.toList ++ ' ' :: (name.text.toList ++ (",".toList ++
          ' ' :: (", ".intercalate (ps.map Expr.paramText)).toList)) := by
      rw [List.map_cons, String.intercalate_cons_of_ne_nil hne, text_eq_display (.inl hn)]
      simp [Expr.paramText, Param.ofTokens]
    rw [htext]
    refine .cons (hl type (by simp)) ht (by decide) (.inr (separated_cons rfl)) ?_
    refine .space (.inl rfl) ?_
    refine .cons (hl name (by simp)) hn (by decide) (.inr (separated_cons rfl)) ?_
    refine .fixed (hl comma (by simp)) hc rfl (.inr (separated_cons rfl)) (.space (.inl rfl) ?_)
    exact ih (fun t ht => hl t (by simp [ht])) _

/-- What is printed between `func` and the body, the opening brace included. -/
def headerText (head : Header) : String :=
  head.name ++ "(" ++ ", ".intercalate ((Param.inOrder head.params).map Expr.paramText) ++ ")" ++
    Expr.returnClause head.returnType ++ " \x7b"

lemma ParamList.spells {ts : List Token} {ps : List Param} (h : ParamList ts ps)
    (hl : ∀ t ∈ ts, Lexed t) (before : Option Kind) :
    Spells before (", ".intercalate ((Param.inOrder ps).map Expr.paramText)).toList ts := by
  cases h with
  | none =>
    rw [show Param.inOrder [] = [] from List.mergeSort_nil]
    exact .nil
  | some h =>
    rw [h.inOrder]
    exact h.spells hl before

/-- A clause that names `_none` is not printed. -/
lemma ReturnClause.reprints {ts : List Token} {r : String} (h : ReturnClause ts r)
    (hl : ∀ t ∈ ts, Lexed t) (before : Option Kind) :
    ∃ us, ReturnClause us r ∧ (∀ t ∈ us, Lexed t) ∧
      Spells before (Expr.returnClause r).toList us := by
  by_cases hr : r = "_none"
  · subst hr
    exact ⟨[], .none, by simp, .nil⟩
  · cases h with
    | none => exact absurd rfl hr
    | @some arrow type ha ht =>
      refine ⟨_, .some ha ht, hl, ?_⟩
      have htext : (Expr.returnClause type.payload.display).toList =
          ' ' :: ("->".toList ++ ' ' :: (type.text.toList ++ [])) := by
        rw [Expr.returnClause, if_neg hr, text_eq_display (.inr (.inl ht))]
        simp
      rw [htext]
      refine .space (.inl rfl) (.fixed (hl arrow (by simp)) ha rfl (.inr (separated_cons rfl)) ?_)
      refine .space (.inl rfl) ?_
      exact .cons (hl type (by simp)) ht (by decide) (.inr separated_nil) .nil

lemma Head.reprints {ts : List Token} {head : Header} (h : Head ts head)
    (hl : ∀ t ∈ ts, Lexed t) :
    ∃ us, Head us head ∧ (∀ t ∈ us, Lexed t) ∧
      ∀ before, Spells before (headerText head).toList us ∧
        lastKind before us = some .leftBrace := by
  obtain @⟨name, left, right, brace, ps, ws, params, r, hn, hlp, hp, hr, hu, hb⟩ := h
  have hlps : ∀ t ∈ ps, Lexed t := fun t ht => hl t (by simp [ht])
  obtain ⟨us, hus, hlus, hclause⟩ :=
    hu.reprints (fun t ht => hl t (by simp [ht])) (some .rightParen)
  refine ⟨_, .mk hn hlp hp hr hus hb, ?_, fun before => ⟨?_, by simp [hb]⟩⟩
  · simp only [List.forall_mem_cons, List.forall_mem_append, List.not_mem_nil, false_imp_iff,
      implies_true, and_true]
    exact ⟨hl name (by simp), hl left (by simp), hlps, hl right (by simp), hlus,
      hl brace (by simp)⟩
  · have htext : (headerText ⟨name.payload.display, params, r⟩).toList =
        name.text.toList ++ ("(".toList ++
          ((", ".intercalate ((Param.inOrder params).map Expr.paramText)).toList ++
            (")".toList ++ ((Expr.returnClause r).toList ++ ' ' :: ("\x7b".toList ++ []))))) := by
      rw [text_eq_display (.inl hn)]
      simp [headerText]
    have hend : Spells (some .rightParen)
        ((Expr.returnClause r).toList ++ ' ' :: ("\x7b".toList ++ [])) (us ++ [brace]) := by
      refine hclause.append (separated_cons rfl) (.space (.inl rfl) ?_)
      exact .fixed (hl brace (by simp)) hb rfl (.inr separated_nil) .nil
    -- a closing parenthesis is followed by a space, with or without a clause
    have hsep : Separated ((Expr.returnClause r).toList ++ ' ' :: ("\x7b".toList ++ [])) := by
      unfold Expr.returnClause
      split
      · exact separated_cons rfl
      · rw [String.toList_append]
        exact separated_cons rfl
    rw [htext]
    refine .cons (hl name (by simp)) hn (by decide) (.inr (separated_cons rfl)) ?_
    refine .fixed (hl left (by simp)) hlp rfl (.inl rfl) ?_
    refine (hp.spells hlps _).append (separated_cons rfl) ?_
    exact .fixed (hl right (by simp)) hr rfl (.inr hsep) hend

/-! ## Phrases -/

/-- A text that spells the tokens `us`, of which the first is that of `ts`. -/
structure Printed (text : String) (ts us : List Token) : Prop where
  head : us.head? = ts.head?
  lexed : ∀ t ∈ us, Lexed t
  spells : ∀ before, operandDue before = true → Spells before text.toList us

/-- The text of the phrase spells tokens that are the phrase up to places and texts.  Behind the
tokens of statements an operand is due. -/
def Reprints : Phrase → List Token → Prop
  | .expr e, ts => ∃ us e', Derives (.expr e') us ∧ e'.bare = e.bare ∧ Printed e.text ts us
  | .args es, ts => ∃ us es', Derives (.args es') us ∧ Expr.bares es' = Expr.bares es ∧
      Printed (", ".intercalate (Expr.texts es)) ts us
  | .statement e, ts => ∃ us e', Derives (.statement e') us ∧ e'.bare = e.bare ∧
      Printed (e.text ++ e.terminator) ts us ∧ ∀ before, operandDue (lastKind before us) = true
  | .body es, ts => ∃ us es', Derives (.body es') us ∧ Expr.bares es' = Expr.bares es ∧
      Printed (" ".intercalate (Expr.statementTexts es)) ts us
  | .program es, ts => ∃ us es', Derives (.program es') us ∧ Expr.bares es' = Expr.bares es ∧
      Printed (Expr.programText es) ts us

section Rules

variable {t u v : Token} {ts vs : List Token} {e : Expr} {es : List Expr}

lemma Printed.cons {text text' : String} {us : List Token} (ht : Lexed t) {k : Kind}
    (hk : t.kind = k) {s : String} (hs : k.fixedText? = some s) (hdue : k.precedesOperand = true)
    (h : Printed text ts us) (htext : text'.toList = s.toList ++ ' ' :: text.toList) :
    Printed text' (t :: ts) (t :: us) := by
  refine ⟨rfl, List.forall_mem_cons.2 ⟨ht, h.lexed⟩, fun before _ => ?_⟩
  rw [htext]
  exact .fixed ht hk hs (.inr (separated_cons rfl)) (.space (.inl rfl) (h.spells _ hdue))

lemma reprints_ret (ht : t.kind = .ret) (hl : Lexed t) (ih : Reprints (.expr e) ts) :
    Reprints (.expr (.ret e (extent t ts))) (t :: ts) := by
  obtain ⟨us, e', he, hbare, hprinted⟩ := ih
  refine ⟨_, _, .ret ht he, by simp [Expr.bare, hbare], hprinted.cons hl ht rfl rfl ?_⟩
  simp [Expr.text]

/-- What an operand and a connective print, before the expression behind them. -/
lemma Printed.chain {text text' s : String} {us : List Token} (hlt : Lexed t)
    (hlu : Lexed u) (hu : u.kind.precedesOperand = true) (hsu : u.text = s)
    (hnot : u.kind ≠ .intLiteral) (h : Printed text ts us)
    (htext : text'.toList = t.text.toList ++ ' ' :: (s.toList ++ ' ' :: text.toList)) :
    Printed text' (t :: u :: ts) (t :: u :: us) := by
  refine ⟨rfl, List.forall_mem_cons.2 ⟨hlt, List.forall_mem_cons.2 ⟨hlu, h.lexed⟩⟩,
    fun before hdue => ?_⟩
  rw [htext, ← hsu]
  refine .token hlt (.inr (separated_cons rfl)) (fun _ => hdue) (.space (.inl rfl) ?_)
  exact .cons hlu rfl hnot (.inr (separated_cons rfl)) (.space (.inl rfl) (h.spells _ hu))

lemma reprints_assign (ht : t.kind = .identifier) (hu : u.kind = .assign) (hlt : Lexed t)
    (hlu : Lexed u) (ih : Reprints (.expr e) ts) :
    Reprints (.expr (.assign (.leaf t t.span) e (extent t (u :: ts)))) (t :: u :: ts) := by
  obtain ⟨us, e', he, hbare, hprinted⟩ := ih
  refine ⟨_, _, .assign ht hu he, by simp [Expr.bare, hbare], ?_⟩
  refine hprinted.chain hlt hlu (by rw [hu]; rfl) (hlu.text_eq hu rfl) (by rw [hu]; decide) ?_
  simp [Expr.text]

lemma text_join (c : Connective) (l r : Expr) (s : Option Span) :
    (Expr.join c l r s).text = l.text ++ " " ++ c.symbol ++ " " ++ r.text := by
  cases c with
  | operator op => rfl
  | assign =>
    simp [Expr.join, Expr.text, Connective.symbol, String.append_assoc]

lemma reprints_chain {c : Connective} (ht : t.kind = .identifier ∨ t.kind = .intLiteral)
    (hu : u.kind = .operator) (hc : Connective.ofSymbol? u.payload.display = some c)
    (hlt : Lexed t) (hlu : Lexed u) (ih : Reprints (.expr e) ts) :
    Reprints (.expr (.join c (.leaf t t.span) e (extent t (u :: ts)))) (t :: u :: ts) := by
  obtain ⟨us, e', he, hbare, hprinted⟩ := ih
  refine ⟨_, _, .chain ht hu hc he, by simp [bare_join, hbare], ?_⟩
  refine hprinted.chain (s := c.symbol) hlt hlu (by rw [hu]; rfl) ?_ (by rw [hu]; decide) ?_
  · rw [text_eq_display (.inr (.inr hu)), Connective.symbol_of_ofSymbol? hc]
  · simp [text_join, Expr.text]

lemma reprints_callEmpty (ht : t.kind = .identifier) (hu : u.kind = .leftParen)
    (hv : v.kind = .rightParen) (hl : ∀ w ∈ [t, u, v], Lexed w) :
    Reprints (.expr (.call t.payload.display [] (extent t [u, v]))) [t, u, v] := by
  refine ⟨_, _, .callEmpty ht hu hv, rfl, rfl, hl, fun before _ => ?_⟩
  have htext : (Expr.call t.payload.display [] (extent t [u, v])).text.toList =
      t.text.toList ++ ("(".toList ++ (")".toList ++ [])) := by
    rw [text_eq_display (.inl ht)]
    simp [Expr.text, Expr.texts]
  rw [htext]
  refine .cons (hl t (by simp)) ht (by decide) (.inr (separated_cons rfl)) ?_
  refine .fixed (hl u (by simp)) hu rfl (.inl rfl) ?_
  exact .fixed (hl v (by simp)) hv rfl (.inr separated_nil) .nil

lemma begins_congr_head {k : Token.Kind} {us : List Token} (h : us.head? = ts.head?) :
    Begins k us ↔ Begins k ts := by
  rw [Begins, Begins, h]

lemma reprints_call (ht : t.kind = .identifier) (hu : u.kind = .leftParen)
    (hb : ¬ Begins .rightParen ts) (hv : v.kind = .rightParen) (hlt : Lexed t) (hlu : Lexed u)
    (hlv : Lexed v) (ih : Reprints (.args es) ts) :
    Reprints (.expr (.call t.payload.display es (extent t (u :: (ts ++ [v])))))
      (t :: u :: (ts ++ [v])) := by
  obtain ⟨us, es', hes, hbares, hhead, hlus, hspells⟩ := ih
  refine ⟨_, _, .call ht hu hes ((begins_congr_head hhead).not.2 hb) hv, ?_, rfl, ?_, ?_⟩
  · simp [Expr.bare, hbares]
  · simp only [List.forall_mem_cons, List.forall_mem_append, List.not_mem_nil, false_imp_iff,
      implies_true, and_true]
    exact ⟨hlt, hlu, hlus, hlv⟩
  · intro before _
    have htext : (Expr.call t.payload.display es (extent t (u :: (ts ++ [v])))).text.toList =
        t.text.toList ++ ("(".toList ++ ((", ".intercalate (Expr.texts es)).toList ++
          (")".toList ++ []))) := by
      rw [text_eq_display (.inl ht)]
      simp [Expr.text]
    rw [htext]
    refine .cons hlt ht (by decide) (.inr (separated_cons rfl)) ?_
    refine .fixed hlu hu rfl (.inl rfl) ((hspells _ rfl).append (separated_cons rfl) ?_)
    exact .fixed hlv hv rfl (.inr separated_nil) .nil

lemma printed_single {text : String} (hl : Lexed t) (htext : text = t.text) :
    Printed text [t] [t] := by
  refine ⟨rfl, by simpa using hl, fun before hdue => ?_⟩
  rw [htext, ← List.append_nil t.text.toList]
  exact .token hl (.inr separated_nil) (fun _ => hdue) .nil

lemma bares_eq_nil {es : List Expr} (h : Expr.bares es = Expr.bares []) : es = [] := by
  cases es with
  | nil => rfl
  | cons e es => cases h

lemma Derives.eq_nil_of_body (h : Derives (.body []) ts) : ts = [] := by
  cases h
  rfl

lemma Derives.eq_nil_of_program (h : Derives (.program []) ts) : ts = [] := by
  cases h
  rfl

/-- What is printed behind the opening brace of a body. -/
def bodyText (es : List Expr) : String :=
  if (Expr.statementTexts es).isEmpty then " \x7d"
  else " " ++ " ".intercalate (Expr.statementTexts es) ++ " \x7d"

lemma text_define (head : Header) (es : List Expr) (s : Option Span) :
    (Expr.define head.name head.params es head.returnType s).text =
      "func " ++ headerText head ++ bodyText es := by
  rw [← String.toList_inj]
  simp only [Expr.text, Expr.block, headerText, bodyText]
  split <;> simp

lemma spells_bodyText {us : List Token} {es' : List Expr} (hl : Lexed v) (hv : v.kind = .rightBrace)
    (hes : Derives (.body es') us) (hbares : Expr.bares es' = Expr.bares es)
    (h : Printed (" ".intercalate (Expr.statementTexts es)) ts us) :
    Spells (some .leftBrace) (bodyText es).toList (us ++ [v]) := by
  have hclose (before : Option Kind) : Spells before (' ' :: ("\x7d".toList ++ [])) [v] :=
    .space (.inl rfl) (.fixed hl hv rfl (.inr separated_nil) .nil)
  cases es with
  | nil =>
    obtain rfl := bares_eq_nil hbares
    obtain rfl := hes.eq_nil_of_body
    exact hclose _
  | cons e es =>
    have htext : (bodyText (e :: es)).toList =
        ' ' :: ((" ".intercalate (Expr.statementTexts (e :: es))).toList ++
          ' ' :: ("\x7d".toList ++ [])) := by
      simp [bodyText, Expr.statementTexts]
    rw [htext]
    exact .space (.inl rfl) ((h.spells _ rfl).append (separated_cons rfl) (hclose _))

lemma reprints_define {head : Header} {us : List Token} (ht : t.kind = .func) (hh : Head ts head)
    (hv : v.kind = .rightBrace) (hl : ∀ w ∈ t :: (ts ++ (us ++ [v])), Lexed w)
    (ih : Reprints (.body es) us) :
    Reprints (.expr (.define head.name head.params es head.returnType
      (extent t (ts ++ (us ++ [v]))))) (t :: (ts ++ (us ++ [v]))) := by
  have hlt := hl t (by simp)
  have hlv := hl v (by simp)
  obtain ⟨hs, hhead, hlhs, hspells⟩ := hh.reprints fun w hw => hl w (by simp [hw])
  obtain ⟨ws, es', hes, hbares, hprinted⟩ := ih
  refine ⟨_, _, .define ht hhead hes hv, ?_, rfl, ?_, ?_⟩
  · simp [Expr.bare, hbares]
  · simp only [List.forall_mem_cons, List.forall_mem_append, List.not_mem_nil, false_imp_iff,
      implies_true, and_true]
    exact ⟨hlt, hlhs, hprinted.lexed, hlv⟩
  · intro before _
    obtain ⟨hspells, hlast⟩ := hspells (some .func)
    have htext : (Expr.define head.name head.params es head.returnType
        (extent t (ts ++ (us ++ [v])))).text.toList =
          "func".toList ++ ' ' :: ((headerText head).toList ++ (bodyText es).toList) := by
      rw [text_define]
      simp
    rw [htext]
    refine .fixed hlt ht rfl (.inr (separated_cons rfl)) (.space (.inl rfl) ?_)
    refine hspells.append ?_ ?_
    · unfold bodyText
      split
      · exact separated_cons rfl
      · rw [String.toList_append, String.toList_append]
        exact separated_cons rfl
    · rw [hlast]
      exact spells_bodyText hlv hv hes hbares hprinted

lemma reprints_lastArg (ih : Reprints (.expr e) ts) : Reprints (.args [e]) ts := by
  obtain ⟨us, e', he, hbare, hprinted⟩ := ih
  refine ⟨us, [e'], .lastArg he, by simp [Expr.bares, hbare], ?_⟩
  rw [Expr.texts, Expr.texts, String.intercalate_singleton]
  exact hprinted

lemma head?_append {us ws xs : List Token} (hne : ts ≠ []) (h : us.head? = ts.head?) :
    (us ++ ws).head? = (ts ++ xs).head? := by
  cases ts with
  | nil => exact absurd rfl hne
  | cons t ts =>
    cases us with
    | nil => cases h
    | cons u us => exact h

/-- Two printed phrases, with a separator between them. -/
lemma Printed.append {text text' : String} {us ws xs : List Token} (cs : List Char)
    (h : Printed text ts us) (hne : ts ≠ []) (hlws : ∀ w ∈ ws, Lexed w)
    (htext : text'.toList = text.toList ++ cs) (hsep : Separated cs)
    (h' : ∀ before, Spells (lastKind before us) cs ws) : Printed text' (ts ++ xs) (us ++ ws) := by
  refine ⟨head?_append hne h.head, List.forall_mem_append.2 ⟨h.lexed, hlws⟩, fun before hdue => ?_⟩
  rw [htext]
  exact (h.spells before hdue).append hsep (h' before)

lemma reprints_moreArgs {us : List Token} (hne : ts ≠ []) (ht : t.kind = .comma) (hlt : Lexed t)
    (hes : es ≠ []) (ih : Reprints (.expr e) ts) (ihs : Reprints (.args es) us) :
    Reprints (.args (e :: es)) (ts ++ t :: us) := by
  obtain ⟨vs, e', he, hbare, hprinted⟩ := ih
  obtain ⟨ws, es', hes', hbares, hprinteds⟩ := ihs
  refine ⟨_, _, .moreArgs he ht hes', by simp [Expr.bares, hbare, hbares], ?_⟩
  refine Printed.append (",".toList ++ ' ' :: (", ".intercalate (Expr.texts es)).toList) hprinted
    hne (List.forall_mem_cons.2 ⟨hlt, hprinteds.lexed⟩) ?_ (separated_cons rfl) fun before => ?_
  · have hne' : Expr.texts es ≠ [] := by
      cases es with
      | nil => exact absurd rfl hes
      | cons e es => simp [Expr.texts]
    rw [Expr.texts, String.intercalate_cons_of_ne_nil hne']
    simp
  · refine .fixed hlt ht rfl (.inr (separated_cons rfl)) (.space (.inl rfl) ?_)
    exact hprinteds.spells _ rfl

lemma lastKind_definition (h : Derives (.expr e) ts) (hd : e.isDefinition = true)
    (before : Option Kind) : lastKind before ts = some .rightBrace := by
  cases h with
  | define ht hh h hv => simp [hv]
  | @chain _ _ _ _ c => cases c <;> cases hd
  | _ => cases hd

lemma reprints_definition (hd : e.isDefinition = true) (ih : Reprints (.expr e) ts) :
    Reprints (.statement e) ts := by
  obtain ⟨us, e', he, hbare, hprinted⟩ := ih
  have hd' : e'.isDefinition = true := (isDefinition_congr hbare).trans hd
  refine ⟨us, e', .definition he hd', hbare, ?_, fun before => ?_⟩
  · rw [Expr.terminator, if_pos hd, String.append_empty]
    exact hprinted
  · rw [lastKind_definition he hd']
    rfl

lemma reprints_terminated (hne : ts ≠ []) (hd : e.isDefinition = false) (ht : t.kind = .semicolon)
    (hl : Lexed t) (ih : Reprints (.expr e) ts) : Reprints (.statement e) (ts ++ [t]) := by
  obtain ⟨us, e', he, hbare, hprinted⟩ := ih
  have hd' : e'.isDefinition = false := (isDefinition_congr hbare).trans hd
  refine ⟨_, e', .terminated he hd' ht, hbare, ?_, fun before => by simp [ht, operandDue,
    Kind.precedesOperand]⟩
  refine Printed.append (";".toList ++ []) hprinted hne (by simpa using hl) ?_ (separated_cons rfl)
    fun before => .fixed hl ht rfl (.inr separated_nil) .nil
  rw [Expr.terminator, hd]
  simp

/-- A printed statement and the printed statements behind it, on one line or on several. -/
lemma Printed.join {c : Char} {us ws xs : List Token} (hc : c = ' ' ∨ c = '\n')
    (h : Printed (e.text ++ e.terminator) ts us) (hne : ts ≠ [])
    (hdue : ∀ before, operandDue (lastKind before us) = true)
    (h' : Printed ((String.singleton c).intercalate (Expr.statementTexts es)) xs ws)
    (hnil : es = [] → ws = []) :
    Printed ((String.singleton c).intercalate (Expr.statementTexts (e :: es))) (ts ++ xs)
      (us ++ ws) := by
  -- only between two statements is there a separator
  by_cases hes : es = []
  · subst hes
    refine Printed.append [] h hne h'.lexed ?_ separated_nil fun before => ?_
    · rw [Expr.statementTexts, Expr.statementTexts, String.intercalate_singleton, List.append_nil]
    · rw [hnil rfl]
      exact .nil
  · refine Printed.append (c :: ((String.singleton c).intercalate (Expr.statementTexts es)).toList)
      h hne h'.lexed ?_ (separated_cons ?_) fun before => .space hc (h'.spells _ (hdue before))
    · have hne' : Expr.statementTexts es ≠ [] := by
        cases es with
        | nil => exact absurd rfl hes
        | cons e es => simp [Expr.statementTexts]
      rw [Expr.statementTexts, String.intercalate_cons_of_ne_nil hne']
      simp
    · rcases hc with rfl | rfl <;> rfl

lemma reprints_bodyMore {us : List Token} (hne : ts ≠ []) (hb : ¬ Begins .rightBrace ts)
    (ih : Reprints (.statement e) ts) (ihs : Reprints (.body es) us) :
    Reprints (.body (e :: es)) (ts ++ us) := by
  obtain ⟨vs, e', he, hbare, hprinted, hdue⟩ := ih
  obtain ⟨ws, es', hes, hbares, hprinteds⟩ := ihs
  refine ⟨_, _, .bodyMore he ((begins_congr_head hprinted.head).not.2 hb) hes, ?_, ?_⟩
  · simp [Expr.bares, hbare, hbares]
  · refine Printed.join (c := ' ') (.inl rfl) hprinted hne hdue hprinteds ?_
    rintro rfl
    obtain rfl := bares_eq_nil hbares
    exact hes.eq_nil_of_body

lemma reprints_programMore {us : List Token} (hne : ts ≠ []) (ih : Reprints (.statement e) ts)
    (ihs : Reprints (.program es) us) : Reprints (.program (e :: es)) (ts ++ us) := by
  obtain ⟨vs, e', he, hbare, hprinted, hdue⟩ := ih
  obtain ⟨ws, es', hes, hbares, hprinteds⟩ := ihs
  refine ⟨_, _, .programMore he hes, by simp [Expr.bares, hbare, hbares], ?_⟩
  refine Printed.join (c := '\n') (.inr rfl) hprinted hne hdue hprinteds ?_
  rintro rfl
  obtain rfl := bares_eq_nil hbares
  exact hes.eq_nil_of_program

lemma Derives.args_ne_nil (h : Derives (.args es) ts) : es ≠ [] := by
  cases h <;> simp

end Rules

/-- **What printing does to the tokens of a phrase.**  The text of the tree spells tokens that are
the same phrase, up to places and texts. -/
theorem Derives.reprints {p : Phrase} {ts : List Token} (h : Derives p ts)
    (hl : ∀ t ∈ ts, Lexed t) : Reprints p ts := by
  induction h with
  | ret ht _ ih =>
    exact reprints_ret ht (hl _ (by simp)) (ih fun w hw => hl w (by simp [hw]))
  | assign ht hu _ ih =>
    exact reprints_assign ht hu (hl _ (by simp)) (hl _ (by simp))
      (ih fun w hw => hl w (by simp [hw]))
  | callEmpty ht hu hv => exact reprints_callEmpty ht hu hv hl
  | call ht hu _ hb hv ih =>
    exact reprints_call ht hu hb hv (hl _ (by simp)) (hl _ (by simp)) (hl _ (by simp))
      (ih fun w hw => hl w (by simp [hw]))
  | chain ht hu hc _ ih =>
    exact reprints_chain ht hu hc (hl _ (by simp)) (hl _ (by simp))
      (ih fun w hw => hl w (by simp [hw]))
  | @operand t ht => exact ⟨[t], _, .operand ht, rfl, printed_single (hl t (by simp)) rfl⟩
  | @stray t ht =>
    have hlt := hl t (by simp)
    exact ⟨[t], _, .stray ht, rfl, printed_single hlt (hlt.text_asError ht)⟩
  | define ht hh _ hv ih =>
    exact reprints_define ht hh hv hl (ih fun w hw => hl w (by simp [hw]))
  | lastArg _ ih => exact reprints_lastArg (ih hl)
  | moreArgs h ht hs ih ihs =>
    exact reprints_moreArgs (h.ne_nil rfl) ht (hl _ (by simp)) hs.args_ne_nil
      (ih fun w hw => hl w (by simp [hw])) (ihs fun w hw => hl w (by simp [hw]))
  | definition _ hd ih => exact reprints_definition hd (ih hl)
  | terminated h hd ht ih =>
    exact reprints_terminated (h.ne_nil rfl) hd ht (hl _ (by simp))
      (ih fun w hw => hl w (by simp [hw]))
  | bodyEnd => exact ⟨[], [], .bodyEnd, rfl, rfl, by simp, fun _ _ => .nil⟩
  | bodyMore h hb _ ih ihs =>
    exact reprints_bodyMore (h.ne_nil rfl) hb (ih fun w hw => hl w (by simp [hw]))
      (ihs fun w hw => hl w (by simp [hw]))
  | programEnd => exact ⟨[], [], .programEnd, rfl, rfl, by simp, fun _ _ => .nil⟩
  | programMore h _ ih ihs =>
    exact reprints_programMore (h.ne_nil rfl) (ih fun w hw => hl w (by simp [hw]))
      (ihs fun w hw => hl w (by simp [hw]))

end Grammar

end Scriptlet
