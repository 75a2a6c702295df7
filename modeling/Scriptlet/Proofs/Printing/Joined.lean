import Scriptlet.Proofs.Grammar.Causes
import Scriptlet.Proofs.Printing.Reread
import Scriptlet.Proofs.Scanning.Restart

/-!
# Programs behind programs

A program and, in a line of its own behind it, another text: that is a program just if the other
text is one, with the statements of both (`statements_joined`), and otherwise the same is wrong with
it (`statements_joined_error`).
-/

namespace Scriptlet

open Token

namespace Grammar

section Append

variable {ts us : List Token} {es fs : List Expr}

/-- The statements of a program may follow those of another one. -/
lemma Derives.append (h : Derives (.program es) ts) (h' : Derives (.program fs) us) :
    Derives (.program (es ++ fs)) (ts ++ us) := by
  generalize hp : Phrase.program es = p at h
  induction h generalizing es with
  | programEnd =>
    cases hp
    exact h'
  | programMore he _ _ ih =>
    cases hp
    rw [List.append_assoc]
    exact .programMore he (ih rfl)
  | _ => cases hp

/-- A definition ends with a brace. -/
lemma Derives.closed {e : Expr} (h : Derives (.expr e) ts) (he : e.isDefinition = true) :
    ∃ vs v, ts = vs ++ [v] ∧ v.kind = .rightBrace := by
  cases h with
  | @define t v us ws _ _ _ _ _ hv => exact ⟨t :: (us ++ ws), v, by simp, hv⟩
  | @chain _ _ _ _ c => cases c <;> cases he
  | _ => cases he

/-- Behind a program an operand is due, if one was due before it. -/
lemma Derives.due (h : Derives (.program es) ts) {before : Option Kind}
    (hbefore : operandDue before = true) : operandDue (lastKind before ts) = true := by
  generalize hp : Phrase.program es = p at h
  induction h generalizing es before with
  | programEnd => exact hbefore
  | programMore he _ _ ih =>
    rw [lastKind_append]
    refine ih ?_ rfl
    cases he with
    | definition he hd =>
      obtain ⟨vs, v, rfl, hv⟩ := he.closed hd
      rw [lastKind_append, lastKind_cons, hv]
      rfl
    | terminated _ _ ht =>
      rw [lastKind_append, lastKind_cons, ht]
      rfl
  | _ => cases hp

end Append

end Grammar

namespace Source

open Grammar

variable {source source' : Source} {es fs : List Expr}

/-- The statements of the one text and then those of the other. -/
theorem statements_joined (h : source.statements.2 = .ok es) (h' : source'.statements.2 = .ok fs)
    (file : Option String) : ∃ gs, (source.joined source' file).statements.2 = .ok gs ∧
      Expr.allSame (es ++ fs) gs = true := by
  obtain ⟨ts, t, hts, -, -, hd⟩ := derives_of_statements h
  obtain ⟨us, u, hus, -, -, hd'⟩ := derives_of_statements h'
  obtain ⟨vs, w, hvs, hbare⟩ := joined_tokens_ok hts (hd.due rfl) hus file
  exact statements_of_bare hvs hbare (hd.append hd')

/-- What is wrong with the second text is wrong with the two of them. -/
theorem statements_joined_error {f : Failure} (h : source.statements.2 = .ok es)
    (h' : source'.statements.2 = .error f) (file : Option String) :
    ∃ f', (source.joined source' file).statements.2 = .error f' ∧ f'.plain = f.plain := by
  obtain ⟨ts, t, hts, -, hlexed, hd⟩ := derives_of_statements h
  cases htokens : source'.tokens with
  | error f₁ =>
    rw [statements_of_error htokens] at h'
    cases h'
    obtain ⟨f', hf', hplain⟩ := joined_tokens_error hts (hd.due rfl) htokens file
    exact ⟨f', statements_of_error hf', hplain⟩
  | ok xs =>
    obtain ⟨us, u, rfl, hu, hlexed'⟩ := Scanner.lexed_tokens htokens
    obtain ⟨vs, w, hvs, hbare⟩ := joined_tokens_ok hts (hd.due rfl) htokens file
    obtain ⟨ws, w', hsplit, hw, hws⟩ := Scanner.lexed_tokens hvs
    obtain ⟨rfl, hw'⟩ := List.append_inj' hsplit rfl
    obtain rfl : w = w' := List.singleton_inj.1 hw'
    have hend := endless_of_lexed hlexed
    have hend' := endless_of_lexed hlexed'
    rw [statements_of_tokens htokens, readProgram_concat hend' hu] at h'
    cases hread : readStatements u.span us with
    | ok fs =>
      rw [hread] at h'
      cases h'
    | error s =>
      rw [hread] at h'
      cases h'
      have hrefused : Refused vs s.error.cause :=
        ((refused_of_error hend' hread).append hd).congr (hend.append hend') hbare
      obtain ⟨s', hs', hcause⟩ := hrefused.error w.span
      refine ⟨.language s'.error, ?_, ?_⟩
      · rw [statements_of_tokens hvs, readProgram_concat (endless_of_lexed hws) hw, hs']
        rfl
      · rw [Failure.plain, Failure.plain, hcause]

end Source

end Scriptlet
