import Scriptlet.Proofs.Grammar.Causes
import Scriptlet.Proofs.Grammar.Indexed
import Scriptlet.Proofs.Grammar.Nodes

/-!
# Tokens of any kind

Tokens need not come from a text: ends of input and error tokens may stand among them, spans may be
missing, and what an operator token holds may be no operator.  Reading by index ends on all of them
(`Cursor.parse_safe`).  What is read depends on the tokens in front of the first end of input, and
each leaf is made of one of those.  The error leaf that is made up at the end of input is in no tree
that reading gives.
-/

namespace Scriptlet

/-- The tokens that the leaves of a node are made of: its own if it is one, and those that name the
types of parameters. -/
def Expr.leafTokens : Expr → List Token
  | leaf t _ => [t]
  | define _ params _ _ _ => params.map Param.typeToken
  | _ => []

/-- Reading the tokens by index ends with the result: if calls may be nested as deep as that, or any
deeper, it is not cut off, and it looks for no token where there is none. -/
def Cursor.Settles (ts : List Token) (result : Except LangError (List Expr)) : Prop :=
  ∀ depth, 4 * ts.length + 3 ≤ depth → parse depth ts = result.mapError .error

/-- What is told of the outcome of reading, but for the place of an error. -/
def Cursor.told (result : Except LangError (List Expr)) : Except (String × String) (List Expr) :=
  result.mapError fun error => (error.code, error.message)

namespace Grammar

open Phrase

/-! ## Where leaves come from -/

/-- The token is one of these, as it was or as an error token. -/
def MadeOf (ts : List Token) (t : Token) : Prop := ∃ u ∈ ts, t = u ∨ t = u.asError

lemma MadeOf.mono {ts us : List Token} {t : Token} (h : MadeOf ts t) (hts : ∀ u ∈ ts, u ∈ us) :
    MadeOf us t := by
  obtain ⟨u, hu, ht⟩ := h
  exact ⟨u, hts u hu, ht⟩

lemma Params.typeToken_mem {n : Nat} {ts : List Token} {ps : List Param} (h : Params n ts ps) :
    ∀ p ∈ ps, p.typeToken ∈ ts := by
  induction h with
  | last => simp [Param.ofTokens]
  | more _ _ _ _ ih =>
    refine List.forall_mem_cons.2 ⟨List.mem_cons_self .., fun p hp => ?_⟩
    simp [ih p hp]

lemma Head.typeToken_mem {ts : List Token} {head : Header} (h : Head ts head) :
    ∀ p ∈ head.params, p.typeToken ∈ ts := by
  cases h with
  | mk hn hl hp hr hu hb =>
    intro p hp'
    cases hp with
    | none => cases hp'
    | some hps => simp [hps.typeToken_mem p hp']

/-- The leaves of a node are made of tokens of its own. -/
lemma Derives.madeOf {ts : List Token} {n : Expr} (h : Derives (expr n) ts) :
    ∀ t ∈ n.leafTokens, MadeOf ts t := by
  intro t ht
  cases h with
  | ret | assign | callEmpty | call => cases ht
  | @chain _ _ _ _ c => cases c <;> cases ht
  | operand =>
    obtain rfl := List.mem_singleton.1 ht
    exact ⟨t, List.mem_singleton_self t, .inl rfl⟩
  | @stray u =>
    obtain rfl := List.mem_singleton.1 ht
    exact ⟨u, List.mem_singleton_self u, .inr rfl⟩
  | define _ hh =>
    obtain ⟨p, hp, rfl⟩ := List.mem_map.1 ht
    have hmem := hh.typeToken_mem p hp
    exact ⟨p.typeToken, by simp [hmem], .inl rfl⟩

lemma madeOf_of_program {ts : List Token} {es : List Expr} (h : Derives (program es) ts) :
    ∀ n ∈ Expr.allNodes es, ∀ t ∈ n.leafTokens, MadeOf ts t := by
  intro n hn t ht
  obtain ⟨us, hus, hd⟩ := h.holds n hn
  exact (hd.madeOf t ht).mono fun u hu => hus.subset hu

/-! ## What the outcome depends on -/

lemma Blames.code {ts : List Token} {s : Stop} (h : Blames ts s) :
    s.error.code ∈ ["E101", "E102", "E103"] := by
  unfold LangError.code
  rcases h with ⟨what, h⟩ | ⟨what, h⟩ | ⟨t, -, -, -, h⟩ <;> rw [h] <;> simp [Cause.code]

/-- Where the tokens end is told by the place of an error and by nothing else. -/
lemma told_readStatements {ts : List Token} (hts : Endless ts) (ending ending' : Option Span) :
    Cursor.told ((readStatements ending ts).mapError Stop.error) =
      Cursor.told ((readStatements ending' ts).mapError Stop.error) := by
  cases hread : readStatements ending ts with
  | ok es =>
    have hall := readsAll_readStatements hts ending
    rw [hread] at hall
    rw [show readStatements ending' ts = .ok es from complete hall ending']
  | error s =>
    obtain ⟨s', hs', hcause⟩ := (refused_of_error hts hread).error ending'
    rw [hs']
    show Except.error (s.error.cause.code, s.error.cause.message) = .error (_, _)
    rw [← hcause]
    rfl

open Cursor in
/-- What stands behind the first end of input makes no difference. -/
lemma told_readProgram {ts us : List Token} (h : beforeEnd us = beforeEnd ts) :
    told ((readProgram us).mapError Stop.error) = told ((readProgram ts).mapError Stop.error) := by
  show told ((readStatements _ (beforeEnd us)).mapError Stop.error) =
    told ((readStatements _ (beforeEnd ts)).mapError Stop.error)
  rw [h]
  exact told_readStatements (endless_beforeEnd ts) _ _

end Grammar

namespace Cursor

open Grammar

lemma beforeEnd_beforeEnd (ts : List Token) : beforeEnd (beforeEnd ts) = beforeEnd ts :=
  List.takeWhile_eq_self_iff.2 fun t ht => by simpa using endless_beforeEnd ts t ht

lemma beforeEnd_concat (ts : List Token) {e : Token} (he : e.kind = .eof) :
    beforeEnd (beforeEnd ts ++ [e]) = beforeEnd ts := by
  rw [beforeEnd, List.takeWhile_append_of_pos fun t ht => by simpa using endless_beforeEnd ts t ht]
  simp [he]

lemma settles_readProgram (ts : List Token) :
    Settles ts ((readProgram ts).mapError Stop.error) := by
  intro depth hdepth
  rw [parse_eq ts hdepth]
  cases readProgram ts <;> rfl

/-- **Reading is safe on tokens of any kind.**  It ends, without looking for a token where there is
none, with statements or with an error of their structure.  Each leaf of the statements is made of a
token in front of the first end of input; and with those tokens alone, or with those and any end of
input, reading comes to the same statements, or to an error with the same code and message. -/
theorem parse_safe (ts : List Token) :
    ∃ result, Settles ts result ∧
      (∀ error, result = .error error → error.code ∈ ["E101", "E102", "E103"]) ∧
      (∀ es, result = .ok es →
        ∀ n ∈ Expr.allNodes es, ∀ t ∈ n.leafTokens, MadeOf (beforeEnd ts) t) ∧
      ∀ us, us = beforeEnd ts ∨ (∃ e : Token, e.kind = .eof ∧ us = beforeEnd ts ++ [e]) →
        ∃ other, Settles us other ∧ told other = told result := by
  have hread : ReadsAll (beforeEnd ts) (readProgram ts) :=
    readsAll_readStatements (endless_beforeEnd ts) _
  refine ⟨_, settles_readProgram ts, ?_, ?_, fun us hus =>
    ⟨_, settles_readProgram us, told_readProgram ?_⟩⟩
  · intro error herror
    cases hs : readProgram ts with
    | ok es =>
      rw [hs] at herror
      cases herror
    | error s =>
      rw [hs] at hread herror
      obtain rfl := Except.error.inj herror
      exact Blames.code hread
  · intro es hes
    cases hs : readProgram ts with
    | ok fs =>
      rw [hs] at hread hes
      obtain rfl := Except.ok.inj hes
      exact madeOf_of_program hread
    | error s =>
      rw [hs] at hes
      cases hes
  · rcases hus with rfl | ⟨e, he, rfl⟩
    · exact beforeEnd_beforeEnd ts
    · exact beforeEnd_concat ts he

end Cursor

end Scriptlet
