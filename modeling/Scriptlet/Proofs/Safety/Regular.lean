import Scriptlet.Proofs.Grammar.Derivation
import Scriptlet.Proofs.Safety.Domain
import Scriptlet.Proofs.Scanning.Lexed

/-!
# Trees that are read from texts

A tree that is read from a text has no shape that evaluation has no use for (`Expr.Regular`): its
leaves are names, literals and error leaves, what it assigns to is a name, and the annotations of
its definitions name types, with the parameters numbered from 0.
-/

namespace Scriptlet

namespace Expr

/-- Nothing but an error leaf can be wrong with the node itself. -/
def Regular : Expr → Prop
  | leaf t _ => t.kind = .error ∨ t.kind = .identifier ∨ (Eval.literal? t).isSome
  | assign target _ _ => target.identifier?.isSome
  | define _ ps _ returnType s =>
    ∃ params type, Eval.resolveSignature ps returnType s = .ok (params, type) ∧
      ∀ p ∈ params, 0 ≤ p.index ∧ p.index < params.length
  | hole => False
  | binary .. | call .. | ret .. => True

end Expr

namespace Token

lemma Lexed.ofAnnotation? {t : Token} (h : Lexed t) (ht : t.kind = .typeName) :
    ∃ type, ValueType.ofAnnotation? t.payload.display = some type := by
  cases h with
  | @word w span hw =>
    obtain ⟨-, h⟩ | ⟨-, h⟩ | ⟨b, -, h⟩ | ⟨hmem, h⟩ | h := classifyWord_cases w
    case inr.inr.inr.inl =>
      have hall : ∀ s ∈ ["int", "string", "bool", "_none"],
          (ValueType.ofAnnotation? s).isSome = true := by decide
      rw [ofWord, h]
      exact Option.isSome_iff_exists.1 (hall w hmem)
    all_goals
      rw [ofWord, h] at ht
      cases ht
  | int | string => cases ht
  | symbol h =>
    have hall : ∀ x ∈ symbols, x.2 ≠ .typeName := by decide
    exact absurd ht (hall _ h)

lemma Lexed.isSome_literal? {t : Token} (h : Lexed t)
    (ht : t.kind = .intLiteral ∨ t.kind = .stringLiteral ∨ t.kind = .boolLiteral) :
    (Eval.literal? t).isSome = true := by
  cases h with
  | @word w span hw =>
    obtain ⟨-, h⟩ | ⟨-, h⟩ | ⟨b, -, h⟩ | ⟨-, h⟩ | h := classifyWord_cases w <;>
      simp [ofWord, h, Eval.literal?] at ht ⊢
  | int | string => rfl
  | symbol h =>
    have hall : ∀ x ∈ symbols,
        ¬(x.2 = .intLiteral ∨ x.2 = .stringLiteral ∨ x.2 = .boolLiteral) := by decide
    exact absurd ht (hall _ h)

lemma Lexed.ofSymbol? {t : Token} (h : Lexed t) (ht : t.kind = .operator) :
    ∃ op, Connective.ofSymbol? t.payload.display = some (.operator op) := by
  cases h with
  | @word w span hw =>
    exact absurd ht (ne_of_mem_of_not_mem (kind_ofWord w span) (by decide))
  | int | string => cases ht
  | @symbol s kind span h =>
    have hall : ∀ x ∈ symbols, x.2 = .operator →
        Connective.ofSymbol? x.1 ≠ none ∧ Connective.ofSymbol? x.1 ≠ some .assign := by decide
    obtain ⟨hnone, hassign⟩ := hall _ h ht
    change ∃ op, Connective.ofSymbol? s = some (.operator op)
    rcases hc : Connective.ofSymbol? s with _ | op | _
    · exact absurd hc hnone
    · exact ⟨op, rfl⟩
    · exact absurd hc hassign

lemma Lexed.regular_leaf {t : Token} (h : Lexed t) (ht : Grammar.isOperand t.kind = true) :
    (Expr.leaf t t.span).Regular := by
  by_cases hname : t.kind = .identifier
  · exact .inr (.inl hname)
  · refine .inr (.inr (h.isSome_literal? ?_))
    cases hk : t.kind <;> simp_all [Grammar.isOperand]

end Token

namespace Grammar

open Token

lemma resolve_ofTokens (n : Nat) {type : Token} (name : Token) (hl : Lexed type)
    (ht : type.kind = .typeName) :
    ∃ p, (Param.ofTokens n type name).resolve = .ok p ∧ p.index = n := by
  obtain ⟨ty, hty⟩ := hl.ofAnnotation? ht
  refine ⟨⟨n, name.payload.display, ty⟩, ?_, rfl⟩
  simp only [Param.resolve, Param.ofTokens, resolveType, hty]
  rfl

/-- The annotations of parameters name types, and the parameters are numbered on from the first. -/
lemma Params.resolve {n : Nat} {ts : List Token} {ps : List Param} (h : Params n ts ps)
    (hts : ∀ t ∈ ts, Lexed t) :
    ∃ params, ps.mapM Param.resolve = .ok params ∧
      ∀ p ∈ params, (n : Int) ≤ p.index ∧ p.index < n + params.length := by
  induction h with
  | @last n type name ht hn =>
    obtain ⟨p, hp, hindex⟩ := resolve_ofTokens n name (hts type (by simp)) ht
    refine ⟨[p], by simp [hp], ?_⟩
    intro q hq
    rw [List.mem_singleton.1 hq, List.length_singleton]
    omega
  | @more n type name comma ts ps ht hn hc _ ih =>
    obtain ⟨p, hp, hindex⟩ := resolve_ofTokens n name (hts type (by simp)) ht
    obtain ⟨params, hparams, hbounds⟩ := ih fun t h => hts t (by simp [h])
    refine ⟨p :: params, by rw [List.mapM_cons, hp, hparams]; rfl, ?_⟩
    intro q hq
    rcases List.mem_cons.1 hq with rfl | hq
    · simp only [List.length_cons]
      omega
    · have := hbounds q hq
      simp only [List.length_cons]
      omega

lemma ParamList.resolve {ts : List Token} {ps : List Param} (h : ParamList ts ps)
    (hts : ∀ t ∈ ts, Lexed t) :
    ∃ params, ps.mapM Param.resolve = .ok params ∧
      ∀ p ∈ params, 0 ≤ p.index ∧ p.index < params.length := by
  cases h with
  | none => exact ⟨[], rfl, by simp⟩
  | some h =>
    obtain ⟨params, hparams, hbounds⟩ := h.resolve hts
    exact ⟨params, hparams, by simpa using hbounds⟩

lemma ReturnClause.resolve {ts : List Token} {r : String} (h : ReturnClause ts r)
    (hts : ∀ t ∈ ts, Lexed t) (s : Option Span) : ∃ type, resolveType r s = .ok type := by
  cases h with
  | none => exact ⟨.nothing, rfl⟩
  | @some arrow type ha ht =>
    obtain ⟨ty, hty⟩ := (hts type (by simp)).ofAnnotation? ht
    exact ⟨ty, by rw [resolveType, hty]⟩

lemma Head.regular {ts : List Token} {head : Header} (h : Head ts head)
    (hts : ∀ t ∈ ts, Lexed t) (es : List Expr) (s : Option Span) :
    (Expr.define head.name head.params es head.returnType s).Regular := by
  obtain ⟨hn, hl, hp, hr, hu, hb⟩ := h
  obtain ⟨params, hparams, hbounds⟩ := hp.resolve fun t h => hts t (by simp [h])
  obtain ⟨type, htype⟩ := hu.resolve (fun t h => hts t (by simp [h])) s
  refine ⟨params, type, ?_, hbounds⟩
  simp only [Eval.resolveSignature, hparams, htype]
  rfl

/-- The nodes of the trees of a phrase. -/
def Phrase.nodes : Phrase → List Expr
  | .expr e | .statement e => e.nodes
  | .args es | .body es | .program es => Expr.allNodes es

/-- **Trees that are read from texts are regular.** -/
theorem Derives.regular {p : Phrase} {ts : List Token} (h : Derives p ts)
    (hts : ∀ t ∈ ts, Lexed t) : ∀ n ∈ p.nodes, n.Regular := by
  induction h with
  | ret _ _ ih =>
    refine List.forall_mem_cons.2 ⟨trivial, ih fun t h => hts t (by simp [h])⟩
  | @assign t u ts e ht hu _ ih =>
    refine List.forall_mem_cons.2 ⟨by simp [Expr.Regular, Expr.identifier?, ht], ?_⟩
    refine List.forall_mem_cons.2 ⟨.inr (.inl ht), ih fun t h => hts t (by simp [h])⟩
  | callEmpty => exact List.forall_mem_cons.2 ⟨trivial, List.forall_mem_nil _⟩
  | call _ _ _ _ _ ih =>
    exact List.forall_mem_cons.2 ⟨trivial, ih fun t h => hts t (by simp [h])⟩
  | @chain t u ts e c ht hu hc _ ih =>
    have hleaf := (hts t (by simp)).regular_leaf (by rcases ht with ht | ht <;> rw [ht] <;> rfl)
    -- no operator token of a text holds `:=`, so the node is no assignment
    obtain ⟨op, hop⟩ := (hts u (by simp)).ofSymbol? hu
    obtain rfl : c = .operator op := Option.some.inj (hc.symm.trans hop)
    refine List.forall_mem_cons.2 ⟨trivial, List.forall_mem_cons.2 ⟨hleaf, ?_⟩⟩
    exact ih fun t h => hts t (by simp [h])
  | @operand t ht =>
    exact List.forall_mem_singleton.2 ((hts t (by simp)).regular_leaf ht)
  | stray => exact List.forall_mem_singleton.2 (.inl rfl)
  | define _ hh _ _ ih =>
    refine List.forall_mem_cons.2 ⟨?_, ih fun t h => hts t (by simp [h])⟩
    exact hh.regular (fun t h => hts t (by simp [h])) _ _
  | lastArg _ ih => simpa [Phrase.nodes, Expr.allNodes] using ih hts
  | definition _ _ ih => exact ih hts
  | terminated _ _ _ ih => exact ih fun t h => hts t (by simp [h])
  | bodyEnd | programEnd => exact List.forall_mem_nil _
  | moreArgs _ _ _ ih ihs | bodyMore _ _ _ ih ihs | programMore _ _ ih ihs =>
    refine List.forall_mem_append.2 ⟨ih fun t h => hts t (by simp [h]), ?_⟩
    exact ihs fun t h => hts t (by simp [h])

end Grammar

end Scriptlet
