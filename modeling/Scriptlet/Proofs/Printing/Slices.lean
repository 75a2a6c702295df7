import Scriptlet.Proofs.Grammar.Nodes
import Scriptlet.Proofs.Printing.Reread
import Scriptlet.Proofs.Scanning.Stretches
import Scriptlet.Proofs.Scanning.Tiling

/-!
# Nodes read from their slices

The span of a node says where in the text the node stands.  That stretch of the text, with a
semicolon behind it unless the node is a definition, is a program of its own, and its only statement
is the node again (`statements_slice`).
-/

namespace Scriptlet

open Token

namespace Token

namespace Scanner

/-- The tokens `v` and `vs` stand between the texts `cs` and `rest`. -/
structure Stands (s : Scanner) (cs ds rest : List Char) (before : Option Kind) (v : Token)
    (vs : List Token) : Prop where
  /-- The text, from the lexeme of the first token on. -/
  text : s.rest = cs ++ (v.lexeme.toList ++ ds) ++ rest
  /-- The first token. -/
  heads : Heads before (v.lexeme.toList ++ (ds ++ rest)) v.kind v.payload (ds ++ rest)
  /-- The other tokens. -/
  covers : Covers rest (some v.kind) ds vs
  /-- The tokens say where they stand. -/
  extent : Grammar.extent v vs = some ⟨s.position.advance cs,
    s.position.advance (cs ++ (v.lexeme.toList ++ ds)), s.source.file⟩

/-- Each run of tokens stands somewhere in the text. -/
lemma exists_stands {s : Scanner} {us vs ws : List Token} {v : Token}
    (h : s.tokens = .ok (us ++ (v :: vs ++ ws))) (hws : ws ≠ []) :
    ∃ cs ds rest before, s.Stands cs ds rest before v vs := by
  obtain ⟨s₁, cs, hcross₁, hs₁⟩ := exists_crosses h (by simp)
  obtain ⟨v', hnext, ⟨-, hsplit⟩ | ⟨heof, rest, hrest, hsplit⟩⟩ := tokens_eq_ok hs₁
  · exact absurd (List.append_eq_nil_iff.1 (List.cons.inj hsplit).2).2 hws
  · cases hsplit
    obtain ⟨gap, hpasses⟩ := passes_next hnext heof
    obtain ⟨s₂, ds, hcross₂, -⟩ := exists_crosses hrest hws
    have hcross := hpasses.crosses hcross₂
    have hheads := hpasses.heads
    have hcovers := hcross₂.covers
    rw [hcross₂.text] at hheads
    rw [hpasses.next] at hcovers
    have hposition₁ : s₁.position = s.position.advance cs :=
      congrArg Scanner.position hcross₁.next
    have hposition₂ : s₂.position = s₁.position.advance (gap ++ (v.lexeme.toList ++ ds)) :=
      congrArg Scanner.position hcross.next
    have hsource : s₁.source = s.source := by rw [hcross₁.next]
    refine ⟨cs ++ gap, ds, s₂.rest, s₁.before, ?_, hheads, hcovers, ?_⟩
    · rw [hcross₁.text, hcross.text]
      simp
    · obtain ⟨start, hstop⟩ := hcross.stop (vs.getLastD v) (by simp [List.getLast?_cons])
      rw [Grammar.extent, spanOf, hpasses.span, hstop, hposition₂, hposition₁, hsource]
      simp [Span.cover, Position.advance_append]

/-- The tokens are read off their stretch of the text also where nothing stands before it and where
it is cut off.  An operator must be alone then, as a minus sign might be read as that of a literal
otherwise. -/
lemma Stands.alone {s : Scanner} {cs ds rest rest' : List Char} {before : Option Kind} {v : Token}
    {vs : List Token} (h : s.Stands cs ds rest before v vs) (hv : v.kind = .operator → vs = [])
    (hrest : Cuts rest') : Covers rest' none (v.lexeme.toList ++ ds) (v :: vs) := by
  have hlooks : LooksLike rest rest' := .inr hrest
  have hheads : Heads none (v.lexeme.toList ++ (ds ++ rest')) v.kind v.payload (ds ++ rest') := by
    refine (h.heads.congr (hlooks.append ds)).of_operandDue rfl fun hk => ?_
    have hcovers := h.covers
    rw [hv hk] at hcovers
    cases hcovers
    exact hrest
  exact .token .nil hheads (h.covers.congr hlooks)

end Scanner

end Token

namespace Expr

lemma allSame_singleton {e : Expr} {fs : List Expr} (h : allSame [e] fs = true) :
    ∃ f, fs = [f] ∧ same e f = true := by
  match fs with
  | [] => cases h
  | [f] => exact ⟨f, rfl, by simpa [allSame] using h⟩
  | f :: g :: fs => simp [allSame] at h

end Expr

lemma covers_terminator (before : Option Kind) (e : Expr) :
    Covers [] before e.terminator.toList e.ending := by
  unfold Expr.terminator Expr.ending
  split
  · exact .nil
  · have hsemicolon : Heads before (";".toList ++ []) .semicolon (.text ";") [] :=
      heads_symbol (by decide) (.inr separated_nil) before
    exact .token (t := ofText .semicolon ";") .nil hsemicolon .nil

lemma cuts_terminator (e : Expr) : Cuts e.terminator.toList := by
  unfold Expr.terminator
  split
  · exact cuts_nil
  · rintro c ⟨⟩
    decide

namespace Source

open Grammar

/-- A text that tokens cover is the program that the tokens are. -/
lemma statements_of_covers {source : Source} {ts : List Token} {es : List Expr}
    (h : Covers [] none source.text.toList ts) (hd : Derives (.program es) ts) :
    ∃ fs, source.statements.2 = .ok fs ∧ Expr.allSame es fs = true := by
  obtain ⟨us, e, htokens, -, hus⟩ :=
    Covers.tokens (s := Scanner.ofSource source) h (List.append_nil _).symm .nil
  exact statements_of_bare htokens hus hd

/-- **Each node is what its slice says.**  The stretch of text that the span of a node covers, with
a semicolon behind it unless the node is a definition, is a program with this node as its only
statement. -/
theorem statements_slice {source : Source} {es : List Expr} {n : Expr}
    (h : source.statements.2 = .ok es) (hn : n ∈ Expr.allNodes es) (file : Option String) :
    ∃ span, n.span = some span ∧ span.start.offset ≤ span.stop.offset ∧
      span.stop.offset ≤ source.text.toList.length ∧
      ∃ e, (Source.mk (String.ofList (source.text.toList.extract span.start.offset
          span.stop.offset) ++ n.terminator) file).statements.2 = .ok [e] ∧
        Expr.same n e = true := by
  obtain ⟨ts, t, htokens, -, -, hd⟩ := derives_of_statements h
  obtain ⟨vs, ⟨us, ws, hsplit⟩, hnode⟩ := hd.holds n hn
  obtain ⟨v, vs, rfl⟩ := List.exists_cons_of_ne_nil (hnode.ne_nil rfl)
  have hrun : source.tokens = .ok (us ++ (v :: vs ++ (ws ++ [t]))) := by
    rw [htokens, ← hsplit]
    simp
  obtain ⟨cs, ds, rest, before, hstands⟩ := Scanner.exists_stands hrun (by simp)
  have htext : source.text.toList = cs ++ (v.lexeme.toList ++ ds) ++ rest := hstands.text
  have hoffset (xs : List Char) :
      ((Scanner.ofSource source).position.advance xs).offset = xs.length := by
    simp [Scanner.ofSource, Position.start]
  refine ⟨_, hnode.span_eq.trans hstands.extent, ?_, ?_, ?_⟩
  · simp
  · rw [hoffset, htext]
    exact (List.prefix_append _ rest).length_le
  · rw [hoffset, hoffset, htext, extract_append]
    -- the node and what follows it cover their text, as they would anywhere else
    have halone : Covers (n.terminator.toList ++ []) none (v.lexeme.toList ++ ds) (v :: vs) := by
      rw [List.append_nil]
      exact hstands.alone hnode.eq_nil_of_operator (cuts_terminator n)
    have hcovers := halone.append (covers_terminator _ n)
    have hprogram : Derives (.program [n]) (v :: vs ++ n.ending ++ []) :=
      .programMore hnode.statement .programEnd
    have hslice :
        (Source.mk (String.ofList (v.lexeme.toList ++ ds) ++ n.terminator) file).text.toList =
          v.lexeme.toList ++ ds ++ n.terminator.toList := by simp
    rw [← hslice] at hcovers
    rw [List.append_nil] at hprogram
    obtain ⟨fs, hfs, hsame⟩ := statements_of_covers hcovers hprogram
    obtain ⟨e, rfl, he⟩ := Expr.allSame_singleton hsame
    exact ⟨e, hfs, he⟩

/-- A minus sign that belongs to a literal belongs to it also without the operator before it. -/
theorem statements_slice_negative :
    ∃ es, (Source.mk "f(1 - -2);" none).statements.2 = .ok es ∧
      ∃ n ∈ Expr.allNodes es, n.text = "-2" ∧
        ∃ e, (Source.mk "-2;" none).statements.2 = .ok [e] ∧ Expr.same n e = true := by
  let span : Span := ⟨⟨1, 7, 6⟩, ⟨1, 9, 8⟩, none⟩
  have hnode : ("-2", some span, ";") ∈
      (Expr.allNodes ((Source.mk "f(1 - -2);" none).statements.2.toOption.getD [])).map
        fun n => (n.text, n.span, n.terminator) := by
    decide +kernel
  cases hread : (Source.mk "f(1 - -2);" none).statements.2 with
  | error failure =>
    rw [hread] at hnode
    cases hnode
  | ok es =>
    rw [hread] at hnode
    obtain ⟨n, hn, heq⟩ := List.mem_map.1 hnode
    simp only [Prod.mk.injEq] at heq
    obtain ⟨htext, hspan, hterminator⟩ := heq
    obtain ⟨span', hspan', -, -, e, he, hsame⟩ := statements_slice hread hn none
    obtain rfl : span = span' := Option.some.inj (hspan.symm.trans hspan')
    rw [hterminator] at he
    exact ⟨es, rfl, n, hn, htext, e, he, hsame⟩

end Source

end Scriptlet
