import Scriptlet.Proofs.Grammar.Bare
import Scriptlet.Proofs.Scanning.ReadBack

/-!
# The strings of a program

The values of the string literals in a tree are those of the string tokens that it was read from, in
their order, since no string token is part of a header or stands as an error leaf.
-/

namespace Scriptlet

namespace Expr

mutual

/-- The values of the string literals in an expression. -/
def strings : Expr → List String
  | leaf t _ => t.string?.toList
  | assign target value _ => target.strings ++ value.strings
  | binary _ left right _ => left.strings ++ right.strings
  | call _ args _ => allStrings args
  | define _ _ body _ _ => allStrings body
  | ret inner _ => inner.strings
  | hole => []

/-- The values of the string literals in expressions. -/
def allStrings : List Expr → List String
  | [] => []
  | e :: es => e.strings ++ allStrings es

end

lemma allStrings_eq_flatMap (es : List Expr) : allStrings es = es.flatMap strings := by
  induction es with
  | nil => rfl
  | cons e es ih => simp [allStrings, ih]

lemma strings_bare (e : Expr) : e.bare.strings = e.strings := by
  induction e using Expr.induction with
  | leaf t s => rfl
  | assign target value s hl hr => simp [bare, strings, hl, hr]
  | binary op left right s hl hr => simp [bare, strings, hl, hr]
  | call name args s ih =>
    simp only [bare, strings, allStrings_eq_flatMap, bares_eq_map, List.flatMap_map]
    exact List.flatMap_congr ih
  | define name params body returnType s ih =>
    simp only [bare, strings, allStrings_eq_flatMap, bares_eq_map, List.flatMap_map]
    exact List.flatMap_congr ih
  | ret inner s ih => simp [bare, strings, ih]
  | hole => rfl

lemma allStrings_congr {es fs : List Expr} (h : bares es = bares fs) :
    allStrings es = allStrings fs := by
  have hbares (es : List Expr) : allStrings (bares es) = allStrings es := by
    simp only [allStrings_eq_flatMap, bares_eq_map, List.flatMap_map]
    exact List.flatMap_congr fun e _ => strings_bare e
  rw [← hbares es, h, hbares]

end Expr

namespace Grammar

open Token

lemma string?_eq_none {t : Token} {k : Kind} (h : t.kind = k) (hk : k ≠ .stringLiteral) :
    t.string? = none := by
  unfold string?
  split
  · rename_i hs _
    exact absurd (h.symm.trans hs) hk
  · rfl

lemma Params.strings {n : Nat} {ts : List Token} {ps : List Param} (h : Params n ts ps) :
    ts.filterMap string? = [] := by
  induction h with
  | last ht hn => simp [string?_eq_none ht, string?_eq_none hn]
  | more ht hn hc _ ih => simp [string?_eq_none ht, string?_eq_none hn, string?_eq_none hc, ih]

lemma ParamList.strings {ts : List Token} {ps : List Param} (h : ParamList ts ps) :
    ts.filterMap string? = [] := by
  cases h with
  | none => rfl
  | some h => exact h.strings

lemma ReturnClause.strings {ts : List Token} {r : String} (h : ReturnClause ts r) :
    ts.filterMap string? = [] := by
  cases h with
  | none => rfl
  | some ha ht => simp [string?_eq_none ha, string?_eq_none ht]

lemma Head.strings {ts : List Token} {head : Header} (h : Head ts head) :
    ts.filterMap string? = [] := by
  obtain ⟨hn, hl, hp, hr, hu, hb⟩ := h
  simp [string?_eq_none hn, string?_eq_none hl, string?_eq_none hr, string?_eq_none hb, hp.strings,
    hu.strings]

/-- The values of the string literals in a phrase. -/
def Phrase.strings : Phrase → List String
  | .expr e | .statement e => e.strings
  | .args es | .body es | .program es => Expr.allStrings es

/-- The strings in the tree are those among the tokens. -/
theorem Derives.strings {p : Phrase} {ts : List Token} (h : Derives p ts) :
    p.strings = ts.filterMap string? := by
  induction h with
  | ret ht _ ih => simpa [Phrase.strings, Expr.strings, string?_eq_none ht] using ih
  | assign ht hu _ ih =>
    simpa [Phrase.strings, Expr.strings, string?_eq_none ht, string?_eq_none hu] using ih
  | callEmpty ht hu hv =>
    simp [Phrase.strings, Expr.strings, Expr.allStrings, string?_eq_none ht, string?_eq_none hu,
      string?_eq_none hv]
  | call ht hu _ _ hv ih =>
    simpa [Phrase.strings, Expr.strings, string?_eq_none ht, string?_eq_none hu,
      string?_eq_none hv] using ih
  | @chain t u ts e c ht hu _ _ ih =>
    have hnone : t.string? = none := by
      rcases ht with ht | ht <;> exact string?_eq_none ht (by decide)
    cases c <;> simpa [Phrase.strings, Expr.join, Expr.strings, hnone, string?_eq_none hu] using ih
  | @operand t ht =>
    cases h : t.string? <;> simp [Phrase.strings, Expr.strings, h]
  | @stray t ht =>
    have hnone : t.string? = none := by
      refine string?_eq_none rfl fun hk => ?_
      rw [hk] at ht
      cases ht
    simp [Phrase.strings, Expr.strings, hnone, string?_eq_none (t := t.asError) (k := .error) rfl]
  | define ht hh _ hv ih =>
    simpa [Phrase.strings, Expr.strings, string?_eq_none ht, string?_eq_none hv, hh.strings]
      using ih
  | lastArg _ ih => simpa [Phrase.strings, Expr.allStrings] using ih
  | moreArgs _ ht _ ih ihs =>
    simp only [Phrase.strings] at ih ihs
    simp [Phrase.strings, Expr.allStrings, string?_eq_none ht, ih, ihs]
  | definition _ _ ih => exact ih
  | terminated _ _ ht ih => simpa [Phrase.strings, string?_eq_none ht] using ih
  | bodyEnd | programEnd => rfl
  | bodyMore _ _ _ ih ihs | programMore _ _ ih ihs =>
    simp only [Phrase.strings] at ih ihs
    simp [Phrase.strings, Expr.allStrings, ih, ihs]

end Grammar

end Scriptlet
