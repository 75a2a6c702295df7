import Mathlib.Algebra.Group.Nat.Defs
import Mathlib.Data.List.Induction
import Mathlib.Data.List.TakeWhile
import Mathlib.Tactic.Lemma
import Scriptlet.Token.Stream

/-!
# The tokens that texts have

`Lexed t` lists what a token that was read from a text can be: a word, an integer short enough to be
written, a string, or one of fourteen symbols.  Its lexeme decides its kind and its payload but for
integers and strings, and the fourteen symbols are the only operators and delimiters there are.
-/

namespace Scriptlet.Token

/-- The characters form a name, a keyword, a truth literal or the name of a type. -/
def IsWord (cs : List Char) : Prop :=
  ∃ c ds, cs = c :: ds ∧ Text.startsWord c = true ∧ ∀ d ∈ ds, Text.isWord d = true

/-- The symbols, with the kinds of their tokens. -/
def symbols : List (String × Kind) :=
  [("+", .operator), ("-", .operator), ("*", .operator), ("/", .operator), ("==", .operator),
    ("!=", .operator), (":=", .assign), ("->", .arrow), ("(", .leftParen), (")", .rightParen),
    ("\x7b", .leftBrace), ("\x7d", .rightBrace), (",", .comma), (";", .semicolon)]

/-- The token of a word. -/
def ofWord (w : String) (span : Option Span) : Token :=
  ⟨(classifyWord w).1, (classifyWord w).2, w, span⟩

/-- The tokens that are read from texts, the last one of each text apart. -/
inductive Lexed : Token → Prop
  /-- A name, a keyword, a truth literal or the name of a type. -/
  | word {w : String} {span : Option Span} (h : IsWord w.toList) : Lexed (ofWord w span)
  /-- An integer literal. -/
  | int {n : Int} {lexeme : String} {span : Option Span} (h : n.natAbs < Numeral.writingLimit) :
      Lexed ⟨.intLiteral, .int n, lexeme, span⟩
  /-- A string literal. -/
  | string {s lexeme : String} {span : Option Span} :
      Lexed ⟨.stringLiteral, .text s, lexeme, span⟩
  /-- An operator or a delimiter. -/
  | symbol {s : String} {kind : Kind} {span : Option Span} (h : (s, kind) ∈ symbols) :
      Lexed ⟨kind, .text s, s, span⟩

/-! ## Words -/

/-- The five ways to classify a word. -/
lemma classifyWord_cases (w : String) :
    (w = "func" ∧ classifyWord w = (.func, .text "func")) ∨
      (w = "return" ∧ classifyWord w = (.ret, .text "return")) ∨
      (∃ b : Bool, w = (if b then "true" else "false") ∧ classifyWord w = (.boolLiteral, .bool b)) ∨
      (w ∈ ["int", "string", "bool", "_none"] ∧ classifyWord w = (.typeName, .text w)) ∨
      classifyWord w = (.identifier, .text w) := by
  unfold classifyWord
  split
  · rename_i h
    exact .inl ⟨h, by rw [h]⟩
  · split
    · rename_i h
      exact .inr (.inl ⟨h, by rw [h]⟩)
    · split
      · rename_i h
        exact .inr (.inr (.inl ⟨true, h, rfl⟩))
      · split
        · rename_i h
          exact .inr (.inr (.inl ⟨false, h, rfl⟩))
        · split
          · rename_i h
            refine .inr (.inr (.inr (.inl ⟨?_, rfl⟩)))
            simpa using h
          · exact .inr (.inr (.inr (.inr rfl)))

/-- The kinds of words. -/
lemma kind_ofWord (w : String) (span : Option Span) :
    (ofWord w span).kind ∈ [Kind.func, .ret, .boolLiteral, .typeName, .identifier] := by
  obtain ⟨-, h⟩ | ⟨-, h⟩ | ⟨b, -, h⟩ | ⟨-, h⟩ | h := classifyWord_cases w <;> simp [ofWord, h]

/-! ## Integers -/

lemma ofDigits_lt {digits : List Nat} (h : ∀ d ∈ digits, d < 10) :
    Numeral.ofDigits digits < 10 ^ digits.length := by
  induction digits using List.reverseRecOn with
  | nil => simp [Numeral.ofDigits]
  | append_singleton ds d ih =>
    have hds := ih fun e he => h e (by simp [he])
    have hd := h d (by simp)
    rw [Numeral.ofDigits_concat, List.length_append, List.length_singleton, Nat.pow_succ]
    omega

lemma asciiDigitValue_lt {c : Char} (h : c.isDigit = true) : asciiDigitValue c < 10 := by
  simp only [Char.isDigit, Bool.and_eq_true, decide_eq_true_eq] at h
  have h9 : c.toNat ≤ 57 := h.2
  have h0 : '0'.toNat = 48 := rfl
  unfold asciiDigitValue
  omega

lemma natAbs_lt_writingLimit {negative : Bool} {cs : List Char} {n : Int}
    (hcs : ∀ c ∈ cs, c.isDigit = true)
    (h : Numeral.ofSignAndDigits negative (cs.map asciiDigitValue) = .ok n) :
    n.natAbs < Numeral.writingLimit := by
  unfold Numeral.ofSignAndDigits at h
  split at h
  · cases h
  · rename_i hlen
    have hlt : Numeral.ofDigits (cs.map asciiDigitValue) <
        10 ^ (cs.map asciiDigitValue).length := by
      refine ofDigits_lt fun d hd => ?_
      obtain ⟨c, hc, rfl⟩ := List.mem_map.1 hd
      exact asciiDigitValue_lt (hcs c hc)
    have hn : n.natAbs = Numeral.ofDigits (cs.map asciiDigitValue) := by
      cases negative <;> cases h <;> simp
    rw [hn]
    -- no more digits than the limit make a number below the limit, whatever the limit is
    unfold Numeral.writingLimit
    generalize Numeral.maxDigits = limit at hlen ⊢
    exact Nat.lt_of_lt_of_le hlt (Nat.pow_le_pow_right (by decide) (Nat.le_of_not_lt hlen))

/-! ## Whatever is read -/

/-- If this is a token, then one of those that texts have. -/
def Lexeme.Sound (l : Lexeme) : Prop :=
  ∀ k p span, l.found = .ok (k, p) → Lexed ⟨k, p, String.ofList l.text, span⟩

lemma sound_readNumber (negative : Bool) (cs : List Char) : (readNumber negative cs).Sound := by
  intro k p span h
  simp only [readNumber] at h
  split at h
  · rename_i n hn
    cases h
    refine .int (natAbs_lt_writingLimit (fun c hc => ?_) hn)
    exact List.mem_takeWhile_imp hc
  · cases h

lemma sound_readString (q : Char) (cs : List Char) : (readString q cs).Sound := by
  intro k p span h
  simp only [readString] at h
  split at h
  · cases h
    exact .string
  · cases h
  · cases h

lemma sound_readWord {c : Char} {cs : List Char} (hc : Text.startsWord c = true) :
    (readWord (c :: cs)).Sound := by
  intro k p span h
  have htext : (readWord (c :: cs)).text = c :: cs.takeWhile Text.isWord := by
    simp [readWord, Text.isWord_of_startsWord hc]
  have hword : IsWord (String.ofList (readWord (c :: cs)).text).toList := by
    rw [htext, String.toList_ofList]
    exact ⟨c, _, rfl, hc, fun d hd => List.mem_takeWhile_imp hd⟩
  have hkp : (k, p) = classifyWord (String.ofList (readWord (c :: cs)).text) :=
    (Except.ok.inj h).symm
  have hlexed : Lexed (ofWord (String.ofList (readWord (c :: cs)).text) span) := .word hword
  rw [ofWord, ← hkp] at hlexed
  exact hlexed

lemma sound_symbol {kind : Kind} {text : List Char} (rest : List Char)
    (h : (String.ofList text, kind) ∈ symbols) : (symbol kind text rest).Sound := by
  rintro k p span ⟨⟩
  exact .symbol h

lemma sound_readSingle (c : Char) (cs : List Char) : (readSingle c cs).Sound := by
  unfold readSingle
  split
  · rename_i kind hkind
    refine sound_symbol cs ?_
    unfold symbolKind? at hkind
    split at hkind <;> cases hkind <;> decide
  · rintro k p span ⟨⟩

lemma sound_readSymbol (before : Option Kind) (c : Char) (cs : List Char) :
    (readSymbol before c cs).Sound := by
  unfold readSymbol
  split
  · exact sound_symbol _ (by decide)
  · exact sound_symbol _ (by decide)
  · exact sound_symbol _ (by decide)
  · exact sound_symbol _ (by decide)
  · split
    · exact sound_readNumber _ _
    · exact sound_readSingle _ _
  · exact sound_readSingle _ _

/-- What is read off the start of a text is one of the tokens that texts have. -/
theorem sound_readLexeme (before : Option Kind) (c : Char) (cs : List Char) :
    (readLexeme before c cs).Sound := by
  unfold readLexeme
  split
  · exact sound_readString c cs
  · split
    · exact sound_readNumber false _
    · split
      · rename_i hc
        exact sound_readWord hc
      · exact sound_readSymbol before c cs

/-- No token of a text is a stand-in or the end. -/
lemma Lexed.kind_ne {t : Token} (h : Lexed t) : t.kind ≠ .error ∧ t.kind ≠ .eof := by
  cases h with
  | @word w span hw =>
    have hkind := kind_ofWord w span
    exact ⟨ne_of_mem_of_not_mem hkind (by decide), ne_of_mem_of_not_mem hkind (by decide)⟩
  | int | string => exact ⟨nofun, nofun⟩
  | symbol h =>
    have hall : ∀ x ∈ symbols, x.2 ≠ .error ∧ x.2 ≠ .eof := by decide
    exact hall _ h

/-! ## The tokens of a text -/

namespace Scanner

lemma next_of_open {s : Scanner} (h : (skipGap s.rest).closed = false) :
    ∃ e, e.cause = .unterminatedComment ∧ s.next.1 = .error e := by
  refine ⟨_, ?_, by simp only [next, h, Bool.false_eq_true, if_false]; rfl⟩
  rw [LangError.cause_attach]
  rfl

lemma next_of_end {s : Scanner} (hc : (skipGap s.rest).closed = true)
    (hr : (skipGap s.rest).rest = []) :
    let start := s.position.advance (skipGap s.rest).skipped
    s.next = (.token ⟨.eof, .absent, "", some ⟨start, start, s.source.file⟩⟩,
      ⟨s.source, start, [], some .eof⟩) := by
  simp only [next, hc, hr, if_true]

lemma next_of_ok {s : Scanner} {c : Char} {cs : List Char} {k : Kind} {p : Payload}
    (hc : (skipGap s.rest).closed = true) (hr : (skipGap s.rest).rest = c :: cs)
    (hf : (readLexeme s.before c cs).found = .ok (k, p)) :
    let start := s.position.advance (skipGap s.rest).skipped
    let stop := start.advance (readLexeme s.before c cs).text
    s.next = (.token ⟨k, p, String.ofList (readLexeme s.before c cs).text,
        some ⟨start, stop, s.source.file⟩⟩,
      ⟨s.source, stop, (readLexeme s.before c cs).rest, some k⟩) := by
  simp only [next, hc, hr, hf, if_true]

lemma next_of_fault {s : Scanner} {c : Char} {cs : List Char} {fault : Fault}
    (hc : (skipGap s.rest).closed = true) (hr : (skipGap s.rest).rest = c :: cs)
    (hf : (readLexeme s.before c cs).found = .error fault) :
    ∃ start, s.next.1 = fault.report s.source start (readLexeme s.before c cs).text := by
  simp only [next, hc, hr, hf, if_true]
  exact ⟨_, rfl⟩

lemma report_ne_token (fault : Fault) (source : Source) (start : Position) (text : List Char)
    (t : Token) : fault.report source start text ≠ .token t := by
  cases fault with
  | invalidEscape c => cases c <;> exact nofun
  | _ => exact nofun

/-- A token is the end of the text, or it has a lexeme. -/
lemma next_eq_token {s : Scanner} {t : Token} (h : s.next.1 = .token t) :
    (skipGap s.rest).closed = true ∧ ((skipGap s.rest).rest = [] ∨
      ∃ c cs k p, (skipGap s.rest).rest = c :: cs ∧
        (readLexeme s.before c cs).found = .ok (k, p)) := by
  cases hc : (skipGap s.rest).closed with
  | false =>
    obtain ⟨e, -, he⟩ := next_of_open hc
    cases he.symm.trans h
  | true =>
    refine ⟨rfl, ?_⟩
    rcases hr : (skipGap s.rest).rest with _ | ⟨c, cs⟩
    · exact .inl rfl
    · rcases hf : (readLexeme s.before c cs).found with fault | ⟨k, p⟩
      · obtain ⟨start, hnext⟩ := next_of_fault hc hr hf
        exact absurd (hnext.symm.trans h) (report_ne_token _ _ _ _ _)
      · exact .inr ⟨c, cs, k, p, rfl, hf⟩

lemma next_token {s : Scanner} {t : Token} (h : s.next.1 = .token t) : t.kind = .eof ∨ Lexed t := by
  obtain ⟨hc, hr | ⟨c, cs, k, p, hr, hf⟩⟩ := next_eq_token h
  · rw [next_of_end hc hr] at h
    cases h
    exact .inl rfl
  · rw [next_of_ok hc hr hf] at h
    cases h
    exact .inr (sound_readLexeme _ _ _ _ _ _ hf)

lemma bare_of_eof {s : Scanner} {t : Token} (hnext : s.next.1 = .token t) (ht : t.kind = .eof) :
    t.bare = { kind := .eof } := by
  obtain ⟨hc, hr | ⟨c, cs, k, p, hr, hf⟩⟩ := next_eq_token hnext
  · rw [next_of_end hc hr] at hnext
    cases hnext
    rfl
  · rw [next_of_ok hc hr hf] at hnext
    cases hnext
    exact absurd ht (sound_readLexeme s.before c cs k p none hf).kind_ne.2

lemma tokens_of_end {s : Scanner} {t : Token} (h : s.next.1 = .token t) (ht : t.kind = .eof) :
    s.tokens = .ok [t] := by
  rw [tokens]
  split
  · rename_i u hu
    obtain rfl : u = t := Event.token.inj (hu.symm.trans h)
    rw [dif_pos ht]
  · rename_i e he
    cases h.symm.trans he
  · rename_i reason hr
    cases h.symm.trans hr

lemma tokens_of_token {s s' : Scanner} {t : Token} (h : s.next = (.token t, s'))
    (ht : t.kind ≠ .eof) : s.tokens = s'.tokens.map (t :: ·) := by
  have hnext : s.next.1 = .token t := by rw [h]
  rw [tokens]
  split
  · rename_i u hu
    obtain rfl : u = t := Event.token.inj (hu.symm.trans hnext)
    rw [dif_neg ht, h]
    cases s'.tokens <;> rfl
  · rename_i e he
    cases hnext.symm.trans he
  · rename_i reason hr
    cases hnext.symm.trans hr

lemma tokens_of_error {s : Scanner} {e : LangError} (h : s.next.1 = .error e) :
    s.tokens = .error (.language e) := by
  rw [tokens]
  split
  · rename_i u hu
    cases h.symm.trans hu
  · rename_i e' he
    rw [Event.error.inj (h.symm.trans he)]
  · rename_i reason hr
    cases h.symm.trans hr

lemma tokens_of_tooLong {s : Scanner} {reason : Numeral.TooLong} (h : s.next.1 = .tooLong reason) :
    s.tokens = .error (.tooLong reason) := by
  rw [tokens]
  split
  · rename_i u hu
    cases h.symm.trans hu
  · rename_i e he
    cases h.symm.trans he
  · rename_i reason' hr
    rw [Event.tooLong.inj (h.symm.trans hr)]

/-- Induction over the places of a text, from each to the place behind its token. -/
@[elab_as_elim]
theorem tokenInduction {motive : Scanner → Prop}
    (step : ∀ s : Scanner, (∀ t, s.next.1 = .token t → t.kind ≠ .eof → motive s.next.2) → motive s)
    (s : Scanner) : motive s := by
  induction hlen : s.rest.length using Nat.strongRecOn generalizing s with
  | ind n ih =>
    refine step s fun t hnext heof => ih _ ?_ s.next.2 rfl
    rw [← hlen]
    exact length_rest_next_lt (by simp [hnext, Event.isEnd, heof])

/-- The tokens from a place on are the next one and, unless that is the end, those behind it. -/
lemma tokens_eq_ok {s : Scanner} {ts : List Token} (h : s.tokens = .ok ts) :
    ∃ t, s.next.1 = .token t ∧
      (t.kind = .eof ∧ ts = [t] ∨
        t.kind ≠ .eof ∧ ∃ us, s.next.2.tokens = .ok us ∧ ts = t :: us) := by
  cases hnext : s.next.1 with
  | error e =>
    rw [tokens_of_error hnext] at h
    cases h
  | tooLong reason =>
    rw [tokens_of_tooLong hnext] at h
    cases h
  | token t =>
    refine ⟨t, rfl, ?_⟩
    by_cases heof : t.kind = .eof
    · rw [tokens_of_end hnext heof] at h
      cases h
      exact .inl ⟨heof, rfl⟩
    · rw [tokens_of_token (Prod.ext hnext rfl) heof] at h
      cases hrest : s.next.2.tokens with
      | error failure =>
        rw [hrest] at h
        cases h
      | ok us =>
        rw [hrest] at h
        cases h
        exact .inr ⟨heof, us, rfl, rfl⟩

/-- The tokens of a text are lexed ones, and the last of them is the end. -/
theorem lexed_tokens {s : Scanner} {ts : List Token} (h : s.tokens = .ok ts) :
    ∃ us t, ts = us ++ [t] ∧ t.kind = .eof ∧ ∀ u ∈ us, Lexed u := by
  induction s using tokenInduction generalizing ts with
  | step s ih =>
    obtain ⟨t, hnext, ⟨heof, rfl⟩ | ⟨heof, rest, hrest, rfl⟩⟩ := tokens_eq_ok h
    · exact ⟨[], t, rfl, heof, by simp⟩
    · obtain ⟨us, e, rfl, he, hus⟩ := ih t hnext heof hrest
      have ht : Lexed t := (next_token hnext).resolve_left heof
      exact ⟨t :: us, e, rfl, he, List.forall_mem_cons.2 ⟨ht, hus⟩⟩

end Scanner

end Scriptlet.Token
