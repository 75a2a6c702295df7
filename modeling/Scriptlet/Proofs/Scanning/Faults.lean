import Scriptlet.Proofs.Scanning.Lexed

/-!
# Texts without tokens

A text has no tokens if reading it comes to a fault.  There are five kinds of faults: a character
that starts no token, a string or a comment that is not closed, an escape that is none, and an
integer literal with more digits than can be converted.
-/

namespace Scriptlet.Token

/-- The reading starts with an integer literal of more digits than can be converted. -/
def Lexeme.TooLong (l : Lexeme) (digits : Nat) : Prop :=
  Numeral.maxDigits < digits ∧ ∃ (negative : Bool) (cs : List Char),
    l.text = (if negative then ['-'] else []) ++ cs ∧ cs.length = digits ∧
      ∀ c ∈ cs, c.isDigit = true

lemma tooLong_readNumber {negative : Bool} {cs : List Char} {reason : Numeral.TooLong}
    (h : (readNumber negative cs).found = .error (.tooLong reason)) :
    ∃ n, reason = .reading n ∧ (readNumber negative cs).TooLong n := by
  simp only [readNumber, Numeral.ofSignAndDigits, List.length_map] at h
  split at h
  · cases h
  · rename_i hreason
    cases h
    split at hreason
    · rename_i hlong
      cases hreason
      exact ⟨_, rfl, hlong, negative, _, rfl, rfl, fun c hc => List.mem_takeWhile_imp hc⟩
    · cases hreason

lemma tooLong_readSingle {c : Char} {cs : List Char} {reason : Numeral.TooLong} :
    (readSingle c cs).found ≠ .error (.tooLong reason) := by
  unfold readSingle
  split <;> exact nofun

lemma tooLong_readSymbol {before : Option Kind} {c : Char} {cs : List Char}
    {reason : Numeral.TooLong}
    (h : (readSymbol before c cs).found = .error (.tooLong reason)) :
    ∃ n, reason = .reading n ∧ (readSymbol before c cs).TooLong n := by
  unfold readSymbol at h ⊢
  split at h
  · cases h
  · cases h
  · cases h
  · cases h
  · split at h
    · rename_i hdue
      rw [if_pos hdue]
      exact tooLong_readNumber h
    · exact absurd h tooLong_readSingle
  · exact absurd h tooLong_readSingle

/-- Only integer literals are too long. -/
lemma tooLong_readLexeme {before : Option Kind} {c : Char} {cs : List Char}
    {reason : Numeral.TooLong} (h : (readLexeme before c cs).found = .error (.tooLong reason)) :
    ∃ n, reason = .reading n ∧ (readLexeme before c cs).TooLong n := by
  unfold readLexeme at h ⊢
  split at h
  · simp only [readString] at h
    split at h <;> cases h
  · rename_i hquote
    rw [if_neg hquote]
    split at h
    · rename_i hdigit
      rw [if_pos hdigit]
      exact tooLong_readNumber h
    · rename_i hdigit
      rw [if_neg hdigit]
      split at h
      · cases h
      · rename_i hword
        rw [if_neg hword]
        exact tooLong_readSymbol h

lemma report_eq_tooLong {fault : Fault} {source : Source} {start : Position} {text : List Char}
    {reason : Numeral.TooLong} (h : fault.report source start text = .tooLong reason) :
    fault = .tooLong reason := by
  cases fault with
  | tooLong reason' =>
    cases h
    rfl
  | invalidEscape c => cases c <;> cases h
  | unexpectedCharacter c => cases h
  | unterminatedString => cases h

/-- A bad escape is about what stands behind its backslash. -/
lemma lead_invalidEscape (text : List Char) (x : Option Char) :
    (Fault.invalidEscape x).lead (text ++ x.toList) = text := by
  cases x with
  | none => exact List.append_nil text
  | some c => exact List.dropLast_concat

lemma code_report {fault : Fault} {source : Source} {start : Position} {text : List Char}
    {e : LangError} (h : fault.report source start text = .error e) :
    e.code ∈ ["E001", "E002", "E005"] := by
  cases fault with
  | tooLong reason => cases h
  | invalidEscape c =>
    cases c <;> cases h <;> rw [LangError.code, LangError.cause_attach] <;>
      simp [LangError.located, Cause.code]
  | unexpectedCharacter c =>
    cases h
    rw [LangError.code, LangError.cause_attach]
    simp [LangError.located, Cause.code]
  | unterminatedString =>
    cases h
    rw [LangError.code, LangError.cause_attach]
    simp [LangError.located, Cause.code]

namespace Scanner

/-- `Reaches s ts s'`: the tokens from `s` up to `s'` are `ts`. -/
inductive Reaches : Scanner → List Token → Scanner → Prop
  /-- No token is read. -/
  | here {s : Scanner} : Reaches s [] s
  /-- One token is read, and further ones behind it. -/
  | further {s s₁ s' : Scanner} {t : Token} {ts : List Token} (hn : s.next = (.token t, s₁))
      (ht : t.kind ≠ .eof) (h : Reaches s₁ ts s') : Reaches s (t :: ts) s'

/-- What is read next, behind a gap, is an integer literal of so many digits, which is too long. -/
def AtTooLong (s : Scanner) (digits : Nat) : Prop :=
  ∃ c cs, (skipGap s.rest).closed = true ∧ (skipGap s.rest).rest = c :: cs ∧
    (readLexeme s.before c cs).TooLong digits

lemma code_next {s : Scanner} {e : LangError} (h : s.next.1 = .error e) :
    e.code ∈ ["E001", "E002", "E004", "E005"] := by
  cases hc : (skipGap s.rest).closed with
  | false =>
    obtain ⟨e', hcause, he'⟩ := next_of_open hc
    obtain rfl : e' = e := Event.error.inj (he'.symm.trans h)
    simp [LangError.code, hcause, Cause.code]
  | true =>
    rcases hr : (skipGap s.rest).rest with _ | ⟨c, cs⟩
    · rw [next_of_end hc hr] at h
      cases h
    · rcases hf : (readLexeme s.before c cs).found with fault | ⟨k, p⟩
      · obtain ⟨start, hstart⟩ := next_of_fault hc hr hf
        have hcode := code_report (hstart.symm.trans h)
        simp only [List.mem_cons, List.not_mem_nil, or_false] at hcode ⊢
        tauto
      · rw [next_of_ok hc hr hf] at h
        cases h

lemma atTooLong_of_next {s : Scanner} {reason : Numeral.TooLong} (h : s.next.1 = .tooLong reason) :
    ∃ n, reason = .reading n ∧ s.AtTooLong n := by
  cases hc : (skipGap s.rest).closed with
  | false =>
    obtain ⟨e, -, he⟩ := next_of_open hc
    rw [he] at h
    cases h
  | true =>
    rcases hr : (skipGap s.rest).rest with _ | ⟨c, cs⟩
    · rw [next_of_end hc hr] at h
      cases h
    · rcases hf : (readLexeme s.before c cs).found with fault | ⟨k, p⟩
      · obtain ⟨start, hstart⟩ := next_of_fault hc hr hf
        rw [report_eq_tooLong (hstart.symm.trans h)] at hf
        obtain ⟨n, hn, hlong⟩ := tooLong_readLexeme hf
        exact ⟨n, hn, c, cs, hc, hr, hlong⟩
      · rw [next_of_ok hc hr hf] at h
        cases h

/-- Where there are no tokens, some are read up to a fault. -/
theorem reaches_fault {s : Scanner} {f : Failure} (h : s.tokens = .error f) :
    ∃ ts s', s.Reaches ts s' ∧ ((∃ e, s'.next.1 = .error e ∧ f = .language e) ∨
      ∃ n, s'.AtTooLong n ∧ f = .tooLong (.reading n)) := by
  induction s using tokenInduction with
  | step s ih =>
    cases hnext : s.next.1 with
    | error e =>
      rw [tokens_of_error hnext] at h
      cases h
      exact ⟨[], s, .here, .inl ⟨e, hnext, rfl⟩⟩
    | tooLong reason =>
      rw [tokens_of_tooLong hnext] at h
      cases h
      obtain ⟨n, rfl, hlong⟩ := atTooLong_of_next hnext
      exact ⟨[], s, .here, .inr ⟨n, hlong, rfl⟩⟩
    | token t =>
      by_cases heof : t.kind = .eof
      · rw [tokens_of_end hnext heof] at h
        cases h
      · rw [tokens_of_token (Prod.ext hnext rfl) heof] at h
        cases hrest : s.next.2.tokens with
        | ok rest =>
          rw [hrest] at h
          cases h
        | error f' =>
          rw [hrest] at h
          cases h
          obtain ⟨ts, s', hreach, hfault⟩ := ih t hnext heof hrest
          exact ⟨t :: ts, s', .further (Prod.ext hnext rfl) heof hreach, hfault⟩

end Scanner

end Scriptlet.Token
