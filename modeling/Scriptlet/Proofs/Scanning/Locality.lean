import Scriptlet.Proofs.Scanning.Trivia
import Scriptlet.Proofs.Scanning.Decoding

/-!
# How far a scanner looks

The token that a text starts with depends on its own characters, on the character behind them and on
the kind of the token before.  There are characters that no token goes on with; one of them, or the
end of the text, may stand behind a token in place of anything else (`Heads.congr`).
-/

namespace Scriptlet.Token

/-- The characters that a gap may start with, and the semicolon.  No token goes on with one. -/
def cuts : List Char := [' ', '\t', '\r', '\n', '#', '/', ';']

/-- The symbols of two characters. -/
def pairs : List (Char × Char) := [('-', '>'), (':', '='), ('=', '='), ('!', '=')]

/-- The text ends, or goes on with a character that no token goes on with. -/
def Cuts (cs : List Char) : Prop := ∀ c ∈ cs.head?, c ∈ cuts

/-- To a scanner whose token ends before `rest`, it might as well end before `rest'`. -/
def LooksLike (rest rest' : List Char) : Prop := rest'.head? = rest.head? ∨ Cuts rest'

lemma cuts_nil : Cuts [] := by
  rintro c ⟨⟩

lemma Cuts.append {cs ds : List Char} (h : Cuts cs) (hne : cs ≠ []) : Cuts (cs ++ ds) := by
  obtain ⟨c, cs, rfl⟩ := List.exists_cons_of_ne_nil hne
  exact h

/-- A gap cuts off the token before it. -/
lemma IsGap.cuts {final : Prop} {gap : List Char} (h : IsGap final gap) : Cuts gap := by
  cases h with
  | nil => exact cuts_nil
  | space hc _ =>
    rintro c ⟨⟩
    exact List.mem_append_left ['#', '/', ';'] hc
  | line | lastLine | block =>
    rintro c ⟨⟩
    decide

lemma LooksLike.append (cs : List Char) {rest rest' : List Char} (h : LooksLike rest rest') :
    LooksLike (cs ++ rest) (cs ++ rest') := by
  cases cs with
  | nil => exact h
  | cons c cs => exact .inl rfl

/-- If no cut is of the class, then what ended a stretch of the class still ends it. -/
lemma LooksLike.ends {p : Char → Bool} {rest rest' : List Char} (h : LooksLike rest rest')
    (hp : cuts.all (fun d => !p d) = true)
    (hrest : ∀ c ∈ rest.head?, p c = false) : ∀ c ∈ rest'.head?, p c = false := by
  intro c hc
  rcases h with h | h
  · rw [h] at hc
    exact hrest c hc
  · exact eq_false_of_mem hp (h c hc)

/-! ## Stretches of a class -/

lemma holds_of_dropWhile {p : Char → Bool} {cs rest : List Char}
    (h : (cs ++ rest).dropWhile p = rest) :
    (∀ c ∈ cs, p c = true) ∧ ∀ c ∈ rest.head?, p c = false := by
  have htake : (cs ++ rest).takeWhile p = cs := by
    have hsplit := List.takeWhile_append_dropWhile (p := p) (l := cs ++ rest)
    rw [h] at hsplit
    exact List.append_cancel_right hsplit
  refine ⟨fun c hc => ?_, fun c hc => ?_⟩
  · rw [← htake] at hc
    exact List.mem_takeWhile_imp hc
  · rw [← h] at hc
    exact head?_dropWhile c hc

lemma readNumber_congr {negative : Bool} (cs : List Char) {rest rest' : List Char}
    (h : (readNumber negative (cs ++ rest)).rest = rest) (hrest : LooksLike rest rest') :
    readNumber negative (cs ++ rest') =
      { readNumber negative (cs ++ rest) with rest := rest' } := by
  obtain ⟨hcs, hend⟩ := holds_of_dropWhile h
  have hend' := hrest.ends (by decide) hend
  simp only [readNumber, takeWhile_append_of_head hcs hend, takeWhile_append_of_head hcs hend',
    dropWhile_append_of_head hcs hend']

lemma readWord_congr (cs : List Char) {rest rest' : List Char}
    (h : (readWord (cs ++ rest)).rest = rest) (hrest : LooksLike rest rest') :
    readWord (cs ++ rest') = { readWord (cs ++ rest) with rest := rest' } := by
  obtain ⟨hcs, hend⟩ := holds_of_dropWhile h
  have hend' := hrest.ends (by decide) hend
  simp only [readWord, takeWhile_append_of_head hcs hend, takeWhile_append_of_head hcs hend',
    dropWhile_append_of_head hcs hend']

/-! ## Strings -/

/-- An encoding is read as its value, whatever stands behind it. -/
lemma Encodes.readStringBody_append {q : Char} {text value : List Char} (h : Encodes q text value)
    (cs : List Char) :
    readStringBody q (text ++ cs) =
      { readStringBody q cs with
        text := text ++ (readStringBody q cs).text
        value := value ++ (readStringBody q cs).value } := by
  induction h with
  | nil => rfl
  | raw hquote hescape hline _ ih =>
    rw [List.cons_append, readStringBody_self ⟨hescape, hquote, hline⟩, ih]
    rfl
  | escape hc _ ih =>
    rw [List.cons_append, List.cons_append, readStringBody_escape (escapeValue?_of_mem hc), ih]
    rfl

lemma Encodes.readStringBody {q : Char} {text value : List Char} (h : Encodes q text value)
    (hq : q ≠ '\\') (rest : List Char) :
    readStringBody q (text ++ q :: rest) = ⟨text ++ [q], value, rest, .closed⟩ := by
  rw [h.readStringBody_append, readStringBody_close hq, List.append_nil]

/-- A string ends with its quote, whatever stands behind. -/
lemma readString_congr {q : Char} (hq : q ≠ '\\') {cs rest : List Char} {x : Kind × Payload}
    (hf : (readString q (cs ++ rest)).found = .ok x) (h : (readString q (cs ++ rest)).rest = rest)
    (rest' : List Char) :
    readString q (cs ++ rest') = { readString q (cs ++ rest) with rest := rest' } := by
  have hclosed : (Token.readStringBody q (cs ++ rest)).ending = .closed := by
    cases hend : (Token.readStringBody q (cs ++ rest)).ending with
    | closed => rfl
    | unclosed | badEscape c =>
      simp only [readString, hend] at hf
      cases hf
  obtain ⟨text, htext, hencodes⟩ := encodes_readStringBody hclosed
  have hcs : cs = text ++ [q] := by
    have hsplit := text_append_rest q (cs ++ rest)
    rw [show (Token.readStringBody q (cs ++ rest)).rest = rest from h, htext] at hsplit
    exact (List.append_cancel_right hsplit).symm
  generalize (Token.readStringBody q (cs ++ rest)).value = value at hencodes
  subst hcs
  have hread := hencodes.readStringBody hq rest
  have hread' := hencodes.readStringBody hq rest'
  simp only [readString, List.append_assoc, List.singleton_append, hread, hread']

/-! ## Symbols -/

lemma readSymbol_pair {c d : Char} (h : (c, d) ∈ pairs) :
    ∃ kind, ∀ before cs, readSymbol before c (d :: cs) = symbol kind [c, d] cs := by
  simp only [pairs, List.mem_cons, Prod.mk.injEq, List.not_mem_nil, or_false] at h
  rcases h with ⟨rfl, rfl⟩ | ⟨rfl, rfl⟩ | ⟨rfl, rfl⟩ | ⟨rfl, rfl⟩
  · exact ⟨.arrow, fun _ _ => rfl⟩
  · exact ⟨.assign, fun _ _ => rfl⟩
  · exact ⟨.operator, fun _ _ => rfl⟩
  · exact ⟨.operator, fun _ _ => rfl⟩

/-- What starts neither a symbol of two characters nor a literal is read as one character. -/
lemma readSymbol_eq_readSingle {before : Option Kind} {c : Char} (cs : List Char)
    (hpair : ∀ d ∈ cs.head?, (c, d) ∉ pairs)
    (hsign : c = '-' → ∀ d ∈ cs.head?, d.isDigit = true → operandDue before = false) :
    readSymbol before c cs = readSingle c cs := by
  rw [readSymbol.eq_def]
  split
  · exact absurd (by decide) (hpair _ rfl)
  · exact absurd (by decide) (hpair _ rfl)
  · exact absurd (by decide) (hpair _ rfl)
  · exact absurd (by decide) (hpair _ rfl)
  · rename_i d rest _
    rw [if_neg]
    intro h
    obtain ⟨hd, hdue⟩ := Bool.and_eq_true_iff.1 h
    rw [hsign rfl d rfl hd] at hdue
    cases hdue
  · rfl

/-- What was read as one character was neither a symbol of two nor the sign of a literal. -/
lemma of_text_readSymbol {before : Option Kind} {c : Char} {cs : List Char}
    (h : (readSymbol before c cs).text = [c]) :
    (∀ d ∈ cs.head?, (c, d) ∉ pairs) ∧
      (c = '-' → ∀ d ∈ cs.head?, d.isDigit = true → operandDue before = false) := by
  cases cs with
  | nil => exact ⟨nofun, fun _ => nofun⟩
  | cons d cs =>
    constructor
    · rintro d ⟨⟩ hpair
      obtain ⟨kind, hread⟩ := readSymbol_pair hpair
      rw [hread] at h
      cases h
    · rintro rfl d ⟨⟩ hd
      cases hdue : operandDue before with
      | false => rfl
      | true =>
        rw [readSymbol_negative hd hdue] at h
        simp [readNumber, hd] at h

/-- A symbol of one character ends before anything that it does not go on with. -/
lemma readSymbol_congr_single {before : Option Kind} {c : Char} {rest rest' : List Char}
    {x : Kind × Payload} (hf : (readSymbol before c rest).found = .ok x)
    (h : (readSymbol before c rest).text = [c]) (hrest : LooksLike rest rest') :
    readSymbol before c rest' = { readSymbol before c rest with rest := rest' } := by
  obtain ⟨hpair, hsign⟩ := of_text_readSymbol h
  have hcuts : ∀ d ∈ cuts, d ≠ '>' ∧ d ≠ '=' ∧ d.isDigit = false := by simp [cuts]
  have hpair' : ∀ d ∈ rest'.head?, (c, d) ∉ pairs := by
    intro d hd
    rcases hrest with hrest | hrest
    · exact hpair d (hrest ▸ hd)
    · obtain ⟨hgreater, hequal, -⟩ := hcuts d (hrest d hd)
      simp [pairs, hgreater, hequal]
  have hsign' : c = '-' → ∀ d ∈ rest'.head?, d.isDigit = true → operandDue before = false := by
    intro hc d hd hdigit
    rcases hrest with hrest | hrest
    · exact hsign hc d (hrest ▸ hd) hdigit
    · cases hdigit.symm.trans (hcuts d (hrest d hd)).2.2
  rw [readSymbol_eq_readSingle rest hpair hsign] at hf ⊢
  rw [readSymbol_eq_readSingle rest' hpair' hsign']
  unfold readSingle at hf ⊢
  split
  · rfl
  · rename_i hkind
    simp [hkind] at hf

lemma text_readSingle (c : Char) (cs : List Char) : (readSingle c cs).text = [c] := by
  unfold readSingle
  split <;> rfl

lemma readSymbol_congr {before : Option Kind} {c : Char} {cs rest rest' : List Char}
    {x : Kind × Payload} (hf : (readSymbol before c (cs ++ rest)).found = .ok x)
    (h : (readSymbol before c (cs ++ rest)).rest = rest) (hrest : LooksLike rest rest') :
    readSymbol before c (cs ++ rest') =
      { readSymbol before c (cs ++ rest) with rest := rest' } := by
  have htext : (readSymbol before c (cs ++ rest)).text = c :: cs := by
    have hsplit := text_append_rest_readSymbol before c (cs ++ rest)
    rw [h, ← List.cons_append] at hsplit
    exact List.append_cancel_right hsplit
  cases cs with
  | nil => exact readSymbol_congr_single hf htext hrest
  | cons d cs =>
    by_cases hpair : (c, d) ∈ pairs
    · obtain ⟨kind, hread⟩ := readSymbol_pair hpair
      rw [List.cons_append, hread] at htext
      obtain rfl : [] = cs := (List.cons.inj (List.cons.inj htext).2).2
      rw [List.cons_append, List.cons_append, hread, hread]
      rfl
    · by_cases hsign : c = '-' ∧ d.isDigit = true ∧ operandDue before = true
      · obtain ⟨rfl, hd, hdue⟩ := hsign
        rw [List.cons_append, readSymbol_negative hd hdue] at h ⊢
        rw [List.cons_append, readSymbol_negative hd hdue]
        exact readNumber_congr (d :: cs) h hrest
      · -- then only the first character would have been read
        have hsingle : readSymbol before c (d :: cs ++ rest) = readSingle c (d :: cs ++ rest) := by
          refine readSymbol_eq_readSingle _ ?_ ?_
          · rintro e ⟨⟩
            exact hpair
          · rintro hc e ⟨⟩ he
            cases hdue : operandDue before with
            | false => rfl
            | true => exact absurd ⟨hc, he, hdue⟩ hsign
        rw [hsingle, text_readSingle] at htext
        cases htext

/-- What is behind a token does not matter, so long as the token ends there. -/
lemma readLexeme_congr {before : Option Kind} {c : Char} {cs rest rest' : List Char}
    {x : Kind × Payload} (hf : (readLexeme before c (cs ++ rest)).found = .ok x)
    (h : (readLexeme before c (cs ++ rest)).rest = rest) (hrest : LooksLike rest rest') :
    readLexeme before c (cs ++ rest') =
      { readLexeme before c (cs ++ rest) with rest := rest' } := by
  unfold readLexeme at hf h ⊢
  split
  · rename_i hc
    rw [if_pos hc] at hf h
    refine readString_congr ?_ hf h rest'
    rintro rfl
    rcases hc with hc | hc <;> cases hc
  · rename_i hc
    rw [if_neg hc] at hf h
    split
    · rename_i hd
      rw [if_pos hd] at h
      exact readNumber_congr (c :: cs) h hrest
    · rename_i hd
      rw [if_neg hd] at hf h
      split
      · rename_i hw
        rw [if_pos hw] at h
        exact readWord_congr (c :: cs) h hrest
      · rename_i hw
        rw [if_neg hw] at hf h
        exact readSymbol_congr hf h hrest

/-- Where no gap starts. -/
lemma skipGap_eq_self {c : Char} {cs : List Char} (h : skipGap (c :: cs) = ⟨[], c :: cs, true⟩) :
    isSpace c = false ∧ c ≠ '#' ∧ (c = '/' → cs.head? ≠ some '*') := by
  refine ⟨?_, ?_, ?_⟩
  · cases hspace : isSpace c with
    | false => rfl
    | true =>
      rw [skipGap_space hspace] at h
      cases congrArg Gap.skipped h
  · rintro rfl
    rw [skipGap] at h
    cases congrArg Gap.skipped h
  · rintro rfl hstar
    cases cs with
    | nil => cases hstar
    | cons d cs =>
      cases hstar
      rw [skipGap] at h
      split at h
      · cases h
      · cases congrArg Gap.skipped h

lemma Heads.eq_cons {before : Option Kind} {text rest : List Char} {k : Kind} {p : Payload}
    (h : Heads before (text ++ rest) k p rest) :
    ∃ c cs, text = c :: cs ∧ skipGap (c :: (cs ++ rest)) = ⟨[], c :: (cs ++ rest), true⟩ ∧
      (readLexeme before c (cs ++ rest)).found = .ok (k, p) ∧
      (readLexeme before c (cs ++ rest)).rest = rest := by
  obtain ⟨c, ds, hsplit, hgap, hf, hr⟩ := h
  have htext : (readLexeme before c ds).text = text := by
    have hread := text_append_rest_readLexeme before c ds
    rw [hr, ← hsplit] at hread
    exact List.append_cancel_right hread
  cases text with
  | nil => exact absurd htext (text_ne_nil_readLexeme before c ds)
  | cons d cs =>
    cases hsplit
    exact ⟨_, _, rfl, hgap, hf, hr⟩

/-- **Of what follows, all that a token depends on is whether it ends there.** -/
theorem Heads.congr {before : Option Kind} {text rest rest' : List Char} {k : Kind} {p : Payload}
    (h : Heads before (text ++ rest) k p rest) (hrest : LooksLike rest rest') :
    Heads before (text ++ rest') k p rest' := by
  obtain ⟨c, cs, rfl, hgap, hf, hr⟩ := h.eq_cons
  obtain ⟨hspace, hline, hblock⟩ := skipGap_eq_self hgap
  have hlexeme := readLexeme_congr hf hr hrest
  have hblock' : c = '/' → (cs ++ rest').head? ≠ some '*' := by
    intro hc
    rcases hrest.append cs with hhead | hcut
    · rw [hhead]
      exact hblock hc
    · exact fun hstar => absurd (hcut '*' hstar) (by decide)
  refine ⟨c, cs ++ rest', rfl, skipGap_of_ne hspace hline hblock', ?_, ?_⟩
  · rw [hlexeme]
    exact hf
  · rw [hlexeme]

lemma readSymbol_before {before before' : Option Kind} {c : Char} {cs : List Char}
    (h : c = '-' → ∀ d ∈ cs.head?, d.isDigit = true → operandDue before' = operandDue before) :
    readSymbol before' c cs = readSymbol before c cs := by
  unfold readSymbol
  split
  case h_5 d rest _ =>
    cases hd : d.isDigit with
    | false => rfl
    | true => rw [h rfl d rfl hd]
  all_goals rfl

lemma readLexeme_minus {before : Option Kind} {d : Char} (hd : d.isDigit = true)
    (hdue : operandDue before = false) (cs : List Char) :
    readLexeme before '-' (d :: cs) = symbol .operator ['-'] (d :: cs) := by
  refine readSymbol_eq_readSingle (c := '-') (d :: cs) ?_ fun _ _ _ _ => hdue
  rintro e ⟨⟩ hpair
  have hall : ∀ x ∈ pairs, x.2.isDigit = false := by decide
  cases hd.symm.trans (hall _ hpair)

/-- **Of what stands before, all that a token depends on is whether an operand is due.**  If it is,
then an operator `-` must not stand before a digit. -/
theorem Heads.of_operandDue {before before' : Option Kind} {text rest : List Char} {k : Kind}
    {p : Payload} (h : Heads before (text ++ rest) k p rest) (hdue : operandDue before' = true)
    (hminus : k = .operator → Cuts rest) : Heads before' (text ++ rest) k p rest := by
  obtain ⟨c, cs, rfl, hgap, hf, hr⟩ := h.eq_cons
  have hlexeme : readLexeme before' c (cs ++ rest) = readLexeme before c (cs ++ rest) := by
    unfold readLexeme
    rw [readSymbol_before fun hc d hd hdigit => ?_]
    cases hdue' : operandDue before with
    | true => exact hdue
    | false =>
      -- the minus sign was an operator of its own, so there is a cut behind it
      obtain ⟨ds, hds⟩ : ∃ ds, cs ++ rest = d :: ds := List.head?_eq_some_iff.1 hd
      rw [hc, hds, readLexeme_minus hdigit hdue'] at hf hr
      cases hf
      have hcut := hminus rfl d (by rw [← hr]; rfl)
      cases hdigit.symm.trans (eq_false_of_mem (p := Char.isDigit) (by decide) hcut)
  exact ⟨c, cs ++ rest, rfl, hgap, hlexeme ▸ hf, hlexeme ▸ hr⟩

end Scriptlet.Token
