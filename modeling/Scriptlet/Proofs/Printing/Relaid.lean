import Scriptlet.Proofs.Scanning.Stretches
import Scriptlet.Proofs.Printing.Reread

/-!
# Texts laid out anew

The gaps between the tokens of a text say nothing.  If the lexemes of its tokens are written down
with other gaps between them, then the new text has tokens that say the same, and it is the same
program, if it is one (`tokens_relaid`).  The gaps must not be empty, but for the one before the
first lexeme and the one behind the last.
-/

namespace Scriptlet

open Token

namespace Token

/-- A text with the gap `first` in front, in which the lexemes of tokens stand with a gap behind
each of them. -/
def relaid (first : List Char) (laid : List (Token × List Char)) : List Char :=
  first ++ laid.flatMap fun (t, gap) => t.lexeme.toList ++ gap

lemma relaid_cons (first gap : List Char) (t : Token) (laid : List (Token × List Char)) :
    relaid first ((t, gap) :: laid) = first ++ (t.lexeme.toList ++ relaid gap laid) := by
  simp [relaid]

/-- Laid out anew, the tokens that cover a text cover another one, up to the last gap. -/
lemma Covers.relaid {rest cs first : List Char} {before : Option Kind}
    {laid : List (Token × List Char)} (h : Covers rest before cs (laid.map Prod.fst))
    (hfirst : IsGap False first) (hgaps : ∀ p ∈ laid, IsGap False p.2)
    (hinner : ∀ p ∈ laid.dropLast, p.2 ≠ []) :
    ∃ cs' last, Token.relaid first laid = cs' ++ last ∧ IsGap False last ∧
      Covers last before cs' (laid.map Prod.fst) := by
  induction laid generalizing before cs first with
  | nil => exact ⟨[], first, by simp [Token.relaid], hfirst, .nil⟩
  | cons p laid ih =>
    obtain ⟨t, gap⟩ := p
    obtain ⟨hgap, hgaps⟩ := List.forall_mem_cons.1 hgaps
    cases h with
    | @token _ _ cs _ _ _ ht h =>
      have hinner' : ∀ p ∈ laid.dropLast, p.2 ≠ [] := by
        intro p hp
        cases laid with
        | nil => cases hp
        | cons q laid => exact hinner p (List.mem_cons_of_mem _ hp)
      obtain ⟨cs', last, hsplit, hlast, hcovers⟩ := ih h hgap hgaps hinner'
      -- a gap that is empty is the last one, and nothing stands behind it
      have hcuts : Cuts (Token.relaid gap laid) := by
        cases laid with
        | nil => simpa [Token.relaid] using hgap.cuts
        | cons q laid => exact hgap.cuts.append (hinner (t, gap) List.mem_cons_self)
      rw [hsplit] at hcuts
      refine ⟨first ++ (t.lexeme.toList ++ cs'), last, ?_, hlast,
        .token hfirst (ht.congr (.inr hcuts)) hcovers⟩
      rw [relaid_cons, hsplit, List.append_assoc, List.append_assoc]

end Token

namespace Source

/-- **White space and comments say nothing.**  The gaps of a text may be exchanged for others: the
tokens still say the same, and so does the program. -/
theorem tokens_relaid {source : Source} {laid : List (Token × List Char)} {e : Token}
    (h : source.tokens = .ok (laid.map Prod.fst ++ [e])) {first : List Char}
    (hfirst : IsGap False first) (hgaps : ∀ p ∈ laid, IsGap False p.2)
    (hinner : ∀ p ∈ laid.dropLast, p.2 ≠ []) (file : Option String) :
    let source' : Source := ⟨String.ofList (relaid first laid), file⟩
    (∃ us, source'.tokens = .ok us ∧ us.map bare = (laid.map Prod.fst ++ [e]).map bare) ∧
      (∀ es, source.statements.2 = .ok es →
        ∃ fs, source'.statements.2 = .ok fs ∧ Expr.allSame es fs = true) ∧
      (∀ fs, source'.statements.2 = .ok fs →
        ∃ es, source.statements.2 = .ok es ∧ Expr.allSame es fs = true) := by
  intro source'
  obtain ⟨s, cs, hcross, -⟩ := Scanner.exists_crosses h (List.cons_ne_nil e [])
  obtain ⟨cs', last, hsplit, hlast, hcovers⟩ := hcross.covers.relaid hfirst hgaps hinner
  have hrest : (Scanner.ofSource source').rest = cs' ++ last := by
    rw [← hsplit]
    exact String.toList_ofList
  obtain ⟨us, e', htokens, he', hus⟩ :=
    Covers.tokens (s := Scanner.ofSource source') hcovers hrest (hlast.mono False.elim)
  have hbare : (us ++ [e']).map bare = (laid.map Prod.fst ++ [e]).map bare := by
    rw [List.map_append, List.map_append, hus, List.map_singleton, List.map_singleton,
      Scanner.bare_of_tokens h, Scanner.bare_of_tokens htokens]
  refine ⟨⟨us ++ [e'], htokens, hbare⟩, fun es hes => ?_, fun fs hfs => ?_⟩
  · exact statements_congr h htokens hbare hes
  · obtain ⟨es, hes, hsame⟩ := statements_congr htokens h hbare.symm hfs
    refine ⟨es, hes, ?_⟩
    rw [Expr.allSame_iff] at hsame ⊢
    exact hsame.symm

/-- The slash and the start of the comment behind it do not make the start of a comment, and the
minus sign still belongs to the literal. -/
theorem tokens_relaid_slash :
    ∃ us, (Source.mk "#\na //**/-1\t;" none).tokens = .ok us ∧ us.map bare =
      [{ kind := .identifier, payload := .text "a" }, { kind := .operator, payload := .text "/" },
        { kind := .intLiteral, payload := .int (-1) },
        { kind := .semicolon, payload := .text ";" }, { kind := .eof }] := by
  let source : Source := ⟨"a/-1;", none⟩
  let token (k : Kind) (p : Payload) (lexeme : String) (start stop : Nat) : Token :=
    ⟨k, p, lexeme, some ⟨⟨1, start + 1, start⟩, ⟨1, stop + 1, stop⟩, none⟩⟩
  let laid : List (Token × List Char) :=
    [(token .identifier (.text "a") "a" 0 1, [' ']),
      (token .operator (.text "/") "/" 1 2, ['/', '*', '*', '/']),
      (token .intLiteral (.int (-1)) "-1" 2 4, ['\t']),
      (token .semicolon (.text ";") ";" 4 5, [])]
  have hread : source.tokens.toOption =
      some (laid.map Prod.fst ++ [token .eof .absent "" 5 5]) := by
    decide +kernel
  have htokens : source.tokens = .ok (laid.map Prod.fst ++ [token .eof .absent "" 5 5]) := by
    cases h : source.tokens with
    | error failure =>
      rw [h] at hread
      cases hread
    | ok ts =>
      rw [h] at hread
      exact congrArg Except.ok (Option.some.inj hread)
  have hgaps : ∀ p ∈ laid, IsGap False p.2 := by
    simp only [laid, List.forall_mem_cons]
    exact ⟨.space (by decide) .nil, .block .close .nil, .space (by decide) .nil, .nil, by simp⟩
  have hfirst : IsGap False ('#' :: ([] ++ ['\n'])) := .line List.not_mem_nil .nil
  have hinner : ∀ p ∈ laid.dropLast, p.2 ≠ [] := by decide
  obtain ⟨us, hus, hbare⟩ := (tokens_relaid htokens hfirst hgaps hinner none).1
  have htext : String.ofList (relaid ['#', '\n'] laid) = "#\na //**/-1\t;" := by decide +kernel
  refine ⟨us, ?_, hbare⟩
  rw [← htext]
  exact hus

end Source

end Scriptlet
