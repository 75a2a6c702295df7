import Scriptlet.Proofs.Evaluation.Erasure
import Scriptlet.Proofs.Scanning.Stretches

/-!
# Texts behind texts

A scanner knows nothing of the text before it but whether an operand is due (`Agree.meaning`).  So
if an operand is due at the end of a text, as it is at its start, then another text, in a line of
its own behind that text, is read as it is read alone (`joined_tokens`).
-/

namespace Scriptlet

namespace Token

/-- What is read, without the place and the text of a token and without the place of an error. -/
def Event.plain : Event → Event
  | token t => token t.bare
  | error e => error { cause := e.cause }
  | tooLong reason => tooLong reason

/-- What the tokens from this event on say, or why there are none, by what those behind it say. -/
def Event.meaning (behind : Except Failure (List Token)) : Event → Except Failure (List Token)
  | token t => if t.kind = .eof then .ok [t.bare] else behind.map (t.bare :: ·)
  | error e => .error (.language { cause := e.cause })
  | tooLong reason => .error (.tooLong reason)

lemma Event.meaning_congr {e e' : Event} (h : e'.plain = e.plain)
    (behind : Except Failure (List Token)) : e'.meaning behind = e.meaning behind := by
  have hmeaning (e : Event) : e.plain.meaning behind = e.meaning behind := by
    cases e <;> rfl
  rw [← hmeaning e', h, hmeaning e]

lemma Fault.plain_report (f : Fault) (source source' : Source) (start start' : Position)
    (text : List Char) :
    (f.report source' start' text).plain = (f.report source start text).plain := by
  cases f with
  | invalidEscape c =>
    cases c <;> simp [report, Event.plain, LangError.cause_attach, LangError.located]
  | _ => simp [report, Event.plain, LangError.cause_attach, LangError.located]

lemma readLexeme_before {before before' : Option Kind} (h : operandDue before' = operandDue before)
    (c : Char) (cs : List Char) : readLexeme before' c cs = readLexeme before c cs := by
  unfold readLexeme
  rw [readSymbol_before fun _ _ _ _ => h]

namespace Scanner

/-- What the tokens from a place on say, or why there are none. -/
def meaning (s : Scanner) : Except Failure (List Token) := Eval.plainResult (List.map bare) s.tokens

/-- What is ahead of the scanners is the same to them. -/
structure Agree (s s' : Scanner) : Prop where
  /-- The text that is left. -/
  rest : s'.rest = s.rest
  /-- What a minus sign before a digit would be. -/
  due : operandDue s'.before = operandDue s.before

/-- They read the same, and agree again behind it. -/
lemma Agree.next {s s' : Scanner} (h : s.Agree s') :
    s'.next.1.plain = s.next.1.plain ∧ s.next.2.Agree s'.next.2 := by
  have hlexeme := readLexeme_before h.due
  cases hc : (skipGap s.rest).closed with
  | false =>
    simp only [Scanner.next, h.rest, hc, Bool.false_eq_true, if_false]
    refine ⟨?_, rfl, h.due⟩
    simp [Event.plain, LangError.cause_attach, LangError.located]
  | true =>
    simp only [Scanner.next, h.rest, hc, if_true]
    cases hr : (skipGap s.rest).rest with
    | nil => exact ⟨rfl, rfl, rfl⟩
    | cons c cs =>
      simp only [hlexeme]
      cases hf : (readLexeme s.before c cs).found with
      | ok x => exact ⟨rfl, rfl, rfl⟩
      | error fault => exact ⟨fault.plain_report _ _ _ _ _, rfl, h.due⟩

/-- They say what the first event does and what those behind it say. -/
lemma meaning_eq (s : Scanner) : s.meaning = s.next.1.meaning s.next.2.meaning := by
  unfold Scanner.meaning
  cases hs : s.next.1 with
  | error e =>
    rw [tokens_of_error hs]
    rfl
  | tooLong reason =>
    rw [tokens_of_tooLong hs]
    rfl
  | token t =>
    by_cases heof : t.kind = .eof
    · rw [tokens_of_end hs heof, Event.meaning, if_pos heof]
      rfl
    · rw [tokens_of_token (Prod.ext hs rfl) heof, Event.meaning, if_neg heof]
      cases s.next.2.tokens <;> rfl

/-- **Scanners that agree read tokens that say the same, up to one end or fault.** -/
theorem Agree.meaning {s s' : Scanner} (h : s.Agree s') : s'.meaning = s.meaning := by
  induction s using tokenInduction generalizing s' with
  | step s ih =>
    obtain ⟨hevent, hnext⟩ := h.next
    rw [meaning_eq s, meaning_eq s', Event.meaning_congr hevent]
    cases hs : s.next.1 with
    | error e => rfl
    | tooLong reason => rfl
    | token t =>
      by_cases heof : t.kind = .eof
      · rw [Event.meaning, Event.meaning, if_pos heof, if_pos heof]
      · rw [ih t hs heof hnext]

/-- Behind the last token there is a gap. -/
lemma isGap_of_eof {s : Scanner} {e : Token} (h : s.tokens = .ok [e]) : IsGap True s.rest := by
  obtain ⟨t, hnext, ⟨heof, -⟩ | ⟨-, us, hus, hsplit⟩⟩ := tokens_eq_ok h
  · obtain ⟨hc, hr | ⟨c, cs, k, p, hr, hf⟩⟩ := next_eq_token hnext
    · have hgap := isGap_skipGap hc
      have htext := skipped_append_rest s.rest
      rw [hr, List.append_nil] at htext
      rw [htext] at hgap
      exact hgap.mono fun _ => trivial
    · rw [next_of_ok hc hr hf] at hnext
      cases hnext
      exact absurd heof (sound_readLexeme s.before c cs k p none hf).kind_ne.2
  · obtain ⟨vs, v, rfl, -, -⟩ := lexed_tokens hus
    simp at hsplit

end Scanner

/-- A line feed ends the comment at the end of a text. -/
lemma IsGap.newline {gap : List Char} (h : IsGap True gap) : IsGap False (gap ++ ['\n']) := by
  induction h with
  | nil => exact .space (by decide) .nil
  | space hc _ ih => exact .space hc ih
  | @line body cs hbody _ ih =>
    rw [List.cons_append, List.append_assoc, List.cons_append]
    exact .line hbody ih
  | @lastLine body _ hbody => exact .line hbody .nil
  | @block body cs hbody _ ih =>
    rw [List.cons_append, List.cons_append, List.append_assoc]
    exact .block hbody ih

end Token

open Token

namespace Source

/-- The second text in a line of its own behind the first one. -/
def joined (source source' : Source) (file : Option String) : Source :=
  ⟨source.text ++ "\n" ++ source'.text, file⟩

/-- **The second text is read behind the first one as it is read alone**, if an operand is due
there. -/
theorem joined_tokens {source : Source} {ts : List Token} {e : Token}
    (h : source.tokens = .ok (ts ++ [e])) (hdue : operandDue (lastKind none ts) = true)
    (source' : Source) (file : Option String) :
    ∃ (us : List Token) (s : Scanner), us.map bare = ts.map bare ∧
      s.meaning = (Scanner.ofSource source').meaning ∧
      (source.joined source' file).tokens = s.tokens.map (us ++ ·) := by
  obtain ⟨last, cs, hcross, hlast⟩ := Scanner.exists_crosses h (List.cons_ne_nil e [])
  have hgap : IsGap True last.rest := Scanner.isGap_of_eof hlast
  have htext : source.text.toList = cs ++ last.rest := hcross.text
  let start := Scanner.ofSource (source.joined source' file)
  have hstart : start.rest = cs ++ (last.rest ++ ['\n'] ++ source'.text.toList) := by
    show (source.text ++ "\n" ++ source'.text).toList = _
    simp [htext]
  -- the last token of the first text still ends where it did
  have hcuts : Cuts (last.rest ++ ['\n'] ++ source'.text.toList) :=
    hgap.newline.cuts.append (by simp)
  have hcovers : Covers (last.rest ++ ['\n'] ++ source'.text.toList) start.before cs ts :=
    hcross.covers.congr (.inr hcuts)
  obtain ⟨us, s, hus, hrest, hbefore, htokens⟩ := hcovers.reads hstart
  refine ⟨us, { s with
    position := s.position.advance (last.rest ++ ['\n'])
    rest := source'.text.toList }, hus, ?_, ?_⟩
  · refine Scanner.Agree.meaning ⟨rfl, ?_⟩
    show operandDue s.before = true
    rw [hbefore]
    exact hdue
  · show start.tokens = _
    rw [htokens, Scanner.tokens_congr (Scanner.next_gap hgap.newline hrest)]

section

variable {source source' : Source} {ts us : List Token} {e u : Token} {f : Failure}

lemma joined_tokens_ok (h : source.tokens = .ok (ts ++ [e]))
    (hdue : operandDue (lastKind none ts) = true) (h' : source'.tokens = .ok (us ++ [u]))
    (file : Option String) : ∃ vs w, (source.joined source' file).tokens = .ok (vs ++ [w]) ∧
      vs.map bare = (ts ++ us).map bare := by
  obtain ⟨vs, s, hvs, hs, htokens⟩ := joined_tokens h hdue source' file
  have hmeaning : (Scanner.ofSource source').meaning = .ok ((us ++ [u]).map bare) :=
    congrArg (Eval.plainResult (List.map bare)) h'
  rw [hmeaning, Scanner.meaning] at hs
  cases hread : s.tokens with
  | error f =>
    rw [hread] at hs
    cases hs
  | ok xs =>
    rw [hread] at hs htokens
    have hxs : xs.map bare = us.map bare ++ [u].map bare :=
      (Except.ok.inj hs).trans List.map_append
    obtain ⟨ws, ys, rfl, hws, hys⟩ := List.map_eq_append_iff.1 hxs
    obtain ⟨w, rfl, -⟩ := List.map_eq_singleton_iff.1 hys
    refine ⟨vs ++ ws, w, ?_, ?_⟩
    · rw [htokens, List.append_assoc]
      rfl
    · rw [List.map_append, List.map_append, hvs, hws]

lemma joined_tokens_error (h : source.tokens = .ok (ts ++ [e]))
    (hdue : operandDue (lastKind none ts) = true) (h' : source'.tokens = .error f)
    (file : Option String) :
    ∃ f', (source.joined source' file).tokens = .error f' ∧ f'.plain = f.plain := by
  obtain ⟨vs, s, -, hs, htokens⟩ := joined_tokens h hdue source' file
  have hmeaning : (Scanner.ofSource source').meaning = .error f.plain :=
    congrArg (Eval.plainResult (List.map bare)) h'
  rw [hmeaning, Scanner.meaning] at hs
  cases hread : s.tokens with
  | ok xs =>
    rw [hread] at hs
    cases hs
  | error f' =>
    rw [hread] at hs htokens
    exact ⟨f', htokens, Except.error.inj hs⟩

end

end Source

end Scriptlet
