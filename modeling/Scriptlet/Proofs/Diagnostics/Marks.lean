import Scriptlet.Proofs.Diagnostics.Lines
import Scriptlet.Proofs.Grammar.Earliest
import Scriptlet.Proofs.Printing.Slices
import Scriptlet.Proofs.Scanning.Faults

/-!
# Spans mark stretches of the text

A span that an error points at comes from a scanner, from a token or from a node.  Wherever it comes
from, it marks a stretch of the text, with the positions that are counted from the start of the
text, and it does not start between a carriage return and a line feed.
-/

namespace Scriptlet

open Token

/-- The span marks a stretch of the text, which does not start within a line break. -/
def Span.Marks (span : Span) (cs : List Char) : Prop :=
  ∃ before inside after, cs = before ++ (inside ++ after) ∧ span.start = .behind before ∧
    span.stop = .behind (before ++ inside) ∧
    (before.getLast? = some '\r' → (inside ++ after).head? ≠ some '\n')

/-- The error points at a stretch of the text; if it shows a line already, then the one that its
span starts in. -/
def LangError.Points (e : LangError) (text : String) : Prop :=
  ∃ cause span, span.Marks text.toList ∧ (e = .located cause (some span) ∨
    e = (LangError.located cause (some span)).attach text)

namespace Token

/-! ## Faults -/

/-- A bad escape is read as far as the character behind its backslash. -/
lemma text_of_badEscape {q : Char} {cs : List Char} {x : Option Char}
    (h : (readStringBody q cs).ending = .badEscape x) :
    ∃ ds, (readStringBody q cs).text = ds ++ ['\\'] ++ x.toList := by
  obtain ⟨text, written, htext, -, hends⟩ := ends_readStringBody q cs
  rw [h] at hends
  generalize (readStringBody q cs).rest = rest at hends
  refine ⟨text, ?_⟩
  cases hends <;> rw [htext, List.append_assoc] <;> rfl

lemma found_readNumber (negative : Bool) (cs : List Char) (x : Option Char) :
    (readNumber negative cs).found ≠ .error (.invalidEscape x) := by
  intro h
  simp only [readNumber] at h
  split at h <;> cases h

lemma found_readSingle (c : Char) (cs : List Char) (x : Option Char) :
    (readSingle c cs).found ≠ .error (.invalidEscape x) := by
  intro h
  unfold readSingle at h
  split at h <;> cases h

lemma found_readSymbol (before : Option Kind) (c : Char) (cs : List Char) (x : Option Char) :
    (readSymbol before c cs).found ≠ .error (.invalidEscape x) := by
  intro h
  unfold readSymbol at h
  split at h
  · cases h
  · cases h
  · cases h
  · cases h
  · split at h
    · exact found_readNumber _ _ x h
    · exact found_readSingle _ _ x h
  · exact found_readSingle _ _ x h

/-- Only in a string is there a bad escape. -/
lemma text_of_invalidEscape {before : Option Kind} {c : Char} {cs : List Char} {x : Option Char}
    (h : (readLexeme before c cs).found = .error (.invalidEscape x)) :
    ∃ ds, (readLexeme before c cs).text = ds ++ ['\\'] ++ x.toList := by
  unfold readLexeme at h ⊢
  split
  · rename_i hquote
    rw [if_pos hquote] at h
    simp only [readString] at h ⊢
    split at h
    · cases h
    · cases h
    · rename_i hend
      cases h
      obtain ⟨ds, hds⟩ := text_of_badEscape hend
      exact ⟨c :: ds, by rw [hds]; rfl⟩
  · rename_i hquote
    rw [if_neg hquote] at h
    split
    · rename_i hdigit
      rw [if_pos hdigit] at h
      exact absurd h (found_readNumber _ _ x)
    · rename_i hdigit
      rw [if_neg hdigit] at h
      split
      · rename_i hword
        rw [if_pos hword] at h
        cases h
      · rename_i hword
        rw [if_neg hword] at h
        exact absurd h (found_readSymbol _ _ _ x)

/-- What a fault is about starts where its text does, or behind a backslash. -/
lemma lead_readLexeme {before : Option Kind} {c : Char} {cs : List Char} {fault : Fault}
    (h : (readLexeme before c cs).found = .error fault) :
    ∃ inside, (readLexeme before c cs).text = fault.lead (readLexeme before c cs).text ++ inside ∧
      (fault.lead (readLexeme before c cs).text = [] ∨
        (fault.lead (readLexeme before c cs).text).getLast? = some '\\') := by
  cases fault with
  | invalidEscape x =>
    obtain ⟨ds, hds⟩ := text_of_invalidEscape h
    rw [hds, lead_invalidEscape]
    exact ⟨x.toList, rfl, .inr List.getLast?_concat⟩
  | unexpectedCharacter d => exact ⟨_, rfl, .inl rfl⟩
  | unterminatedString => exact ⟨_, rfl, .inl rfl⟩
  | tooLong reason => exact ⟨_, rfl, .inl rfl⟩

lemma report_eq_error {fault : Fault} {source : Source} {start : Position} {text : List Char}
    {e : LangError} (h : fault.report source start text = .error e) :
    ∃ cause, e = (LangError.located cause (some ⟨start.advance (fault.lead text),
      start.advance text, source.file⟩)).attach source.text := by
  cases fault with
  | tooLong reason => cases h
  | invalidEscape x => cases x <;> exact ⟨_, (Event.error.inj h).symm⟩
  | unexpectedCharacter c => exact ⟨_, (Event.error.inj h).symm⟩
  | unterminatedString => exact ⟨_, (Event.error.inj h).symm⟩

/-- A comment that is never closed starts with a slash. -/
lemma head?_of_not_closed {cs : List Char} (h : (skipGap cs).closed = false) :
    (skipGap cs).rest.head? = some '/' := by
  fun_induction skipGap cs with
  | case1 | case6 => cases h
  | case2 _ ih | case4 _ _ _ _ ih | case5 _ _ _ _ _ ih => exact ih h
  | case3 => rfl

lemma ne_newline_of_skipGap {c : Char} {cs : List Char}
    (h : skipGap (c :: cs) = ⟨[], c :: cs, true⟩) : c ≠ '\n' := by
  rintro rfl
  cases (skipGap_eq_self h).1

namespace Scanner

section Points

variable {s : Scanner} {done : List Char} {e : LangError}

/-- A comment that is never closed goes on to the end of the text. -/
lemma Behind.points_of_open (h : s.Behind done) (hc : (skipGap s.rest).closed = false)
    (he : s.next.1 = .error e) : e.Points s.source.text := by
  simp only [Scanner.next, hc, Bool.false_eq_true, if_false, advance_of_behind h,
    Position.advance_behind] at he
  refine ⟨_, _, ⟨done ++ (skipGap s.rest).skipped, (skipGap s.rest).rest, [], ?_, rfl, rfl, ?_⟩,
    .inr (Event.error.inj he).symm⟩
  · rw [h.text, List.append_nil, List.append_assoc, skipped_append_rest]
  · intro _
    rw [List.append_nil, head?_of_not_closed hc]
    decide

/-- What a fault is about is a stretch of what was read. -/
lemma Behind.points_of_fault (h : s.Behind done) (hc : (skipGap s.rest).closed = true) {c : Char}
    {cs : List Char} (hr : (skipGap s.rest).rest = c :: cs) {fault : Fault}
    (hf : (readLexeme s.before c cs).found = .error fault) (he : s.next.1 = .error e) :
    e.Points s.source.text := by
  have hgap := skipped_append_rest s.rest
  have hstart := skipGap_rest hc
  have hread := text_append_rest_readLexeme s.before c cs
  rw [hr] at hgap hstart
  simp only [Scanner.next, hc, hr, hf, if_true, advance_of_behind h] at he
  obtain ⟨cause, rfl⟩ := report_eq_error he
  obtain ⟨inside, htext, hlead⟩ := lead_readLexeme hf
  generalize fault.lead (readLexeme s.before c cs).text = lead at htext hlead ⊢
  have hsplit : lead ++ (inside ++ (readLexeme s.before c cs).rest) = c :: cs := by
    rw [← List.append_assoc, ← htext, hread]
  refine ⟨cause, _, ⟨done ++ (skipGap s.rest).skipped ++ lead, inside,
    (readLexeme s.before c cs).rest, ?_, ?_, ?_, ?_⟩, .inr rfl⟩
  · rw [h.text, List.append_assoc (done ++ _), hsplit, List.append_assoc, hgap]
  · exact Position.advance_behind _ _
  · rw [List.append_assoc, ← htext]
    exact Position.advance_behind _ _
  · intro hreturn
    obtain rfl | hlead := hlead
    · rw [List.nil_append] at hsplit
      rw [hsplit]
      exact fun hline => ne_newline_of_skipGap hstart (Option.some.inj hline)
    · rw [List.getLast?_append, hlead] at hreturn
      cases hreturn

/-- An error of the scanner points at the text that it cannot read. -/
lemma Behind.points (h : s.Behind done) (he : s.next.1 = .error e) : e.Points s.source.text := by
  cases hc : (skipGap s.rest).closed with
  | false => exact h.points_of_open hc he
  | true =>
    cases hr : (skipGap s.rest).rest with
    | nil =>
      rw [next_of_end hc hr] at he
      cases he
    | cons c cs =>
      cases hf : (readLexeme s.before c cs).found with
      | ok x =>
        rw [next_of_ok hc hr hf] at he
        cases he
      | error fault => exact h.points_of_fault hc hr hf he

end Points

lemma Reaches.behind {s s' : Scanner} {ts : List Token} {done : List Char} (h : s.Reaches ts s')
    (hs : s.Behind done) : s'.source = s.source ∧ ∃ done', s'.Behind done' := by
  induction h generalizing done with
  | here => exact ⟨rfl, done, hs⟩
  | further hnext _ _ ih =>
    obtain ⟨-, -, done', -, hbehind, -, hsource, -⟩ := hs.next (congrArg Prod.fst hnext)
    rw [hnext] at hbehind hsource
    obtain ⟨hsource', hs'⟩ := ih hbehind
    exact ⟨hsource'.trans hsource, hs'⟩

end Scanner

end Token

namespace Source

open Grammar

variable {source : Source}

lemma points_of_tokens {e : LangError} (h : source.tokens = .error (.language e)) :
    e.Points source.text := by
  obtain ⟨ts, s, hreach, ⟨e', he, hsame⟩ | ⟨n, -, hsame⟩⟩ := Scanner.reaches_fault h
  · cases hsame
    obtain ⟨hsource, done, hbehind⟩ := hreach.behind (Scanner.behind_ofSource source)
    have hpoints := hbehind.points he
    rw [hsource] at hpoints
    exact hpoints
  · cases hsame

/-! ## Tokens and nodes -/

/-- Tokens that follow one another mark the stretch from the first one to the last. -/
lemma marks_extent {us vs ws : List Token} {v : Token}
    (h : source.tokens = .ok (us ++ (v :: vs ++ ws))) (hws : ws ≠ []) :
    ∃ span, extent v vs = some span ∧ span.Marks source.text.toList := by
  obtain ⟨cs, ds, rest, before, hstands⟩ := Scanner.exists_stands h hws
  have htext : source.text.toList = cs ++ (v.lexeme.toList ++ ds) ++ rest := hstands.text
  refine ⟨_, hstands.extent, cs, v.lexeme.toList ++ ds, rest, ?_, ?_, ?_, fun _ => ?_⟩
  · rw [htext, List.append_assoc]
  · exact Position.advance_start cs
  · exact Position.advance_start _
  · obtain ⟨c, es, hlexeme, hgap, -⟩ := hstands.heads.eq_cons
    rw [hlexeme]
    exact fun hline => ne_newline_of_skipGap hgap (Option.some.inj hline)

/-- The end of the tokens marks the end of the text. -/
lemma marks_last {us : List Token} {t : Token} (h : source.tokens = .ok (us ++ [t])) :
    ∃ span, t.span = some span ∧ span.Marks source.text.toList := by
  obtain ⟨⟨start, stop, htile⟩, hlast⟩ := (Scanner.behind_ofSource source).tiles h
  obtain ⟨hoffset, hstop⟩ := htile.eof (hlast.2 rfl)
  have hstart : start = .behind source.text.toList := by
    rw [htile.start_eq, hoffset]
    exact congrArg Position.behind List.take_length
  refine ⟨_, htile.span, source.text.toList, [], [], by simp, hstart, ?_, fun _ => nofun⟩
  rw [List.append_nil]
  exact hstop.trans hstart

/-- Each node of a program marks a stretch of its text. -/
lemma marks_node {es : List Expr} {n : Expr} (h : source.statements.2 = .ok es)
    (hn : n ∈ Expr.allNodes es) : ∃ span, n.span = some span ∧ span.Marks source.text.toList := by
  obtain ⟨ts, t, htokens, -, -, hd⟩ := derives_of_statements h
  obtain ⟨vs, ⟨us, ws, hsplit⟩, hnode⟩ := hd.holds n hn
  obtain ⟨v, vs, rfl⟩ := List.exists_cons_of_ne_nil (hnode.ne_nil rfl)
  have hrun : source.tokens = .ok (us ++ (v :: vs ++ (ws ++ [t]))) := by
    rw [htokens, ← hsplit]
    simp
  rw [hnode.span_eq]
  exact marks_extent hrun (by simp)

/-- A text that is no program is blamed where its tokens stop. -/
lemma points_of_statements {e : LangError} (h : source.statements.2 = .error (.language e)) :
    e.Points source.text := by
  cases htokens : source.tokens with
  | error failure =>
    rw [statements_of_error htokens] at h
    cases h
    exact points_of_tokens htokens
  | ok xs =>
    obtain ⟨ts, t, rfl, ht, hlexed⟩ := Scanner.lexed_tokens htokens
    have hend := endless_of_lexed hlexed
    have hsticks := sticks_readStatements hend t.span
    rw [statements_of_tokens htokens, readProgram_concat hend ht] at h
    cases hread : readStatements t.span ts with
    | ok es =>
      rw [hread] at h
      cases h
    | error stop =>
      rw [hread] at h hsticks
      cases h
      obtain ⟨us, cause, hsplit, herror, -⟩ := hsticks
      rw [herror]
      cases hrest : stop.rest with
      | nil =>
        obtain ⟨span, hspan, hmarks⟩ := marks_last htokens
        exact ⟨cause, span, hmarks, .inl (congrArg (LangError.located cause) hspan)⟩
      | cons u rest =>
        rw [hrest] at hsplit
        have hrun : source.tokens = .ok (us ++ (u :: [] ++ (rest ++ [t]))) := by
          rw [htokens, hsplit]
          simp
        obtain ⟨span, hspan, hmarks⟩ := marks_extent hrun (by simp)
        rw [extent_nil] at hspan
        exact ⟨cause, span, hmarks, .inl (congrArg (LangError.located cause) hspan)⟩

end Source

end Scriptlet
