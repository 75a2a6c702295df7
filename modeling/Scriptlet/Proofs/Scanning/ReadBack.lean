import Scriptlet.Proofs.Scanning.Lexed

/-!
# Reading tokens back

The text of a token, with a separator or the end of the text behind it, is read as that token again
(`heads_text`).  There are two provisos: a minus sign has to stand where an operand is due, and a
string must hold no character that quoting writes by its code point, since the escapes that give a
code point are none that can be read.
-/

namespace Scriptlet.Token

/-! ## Characters -/

/-- The characters that may stand behind a token in a printed program. -/
def isSeparator (c : Char) : Bool :=
  c == ' ' || c == '\n' || c == ';' || c == ',' || c == '(' || c == ')'

/-- The text ends, or goes on with a character that no token goes on with. -/
def Separated (cs : List Char) : Prop := ∀ c ∈ cs.head?, isSeparator c = true

lemma separated_cons {c : Char} {cs : List Char} (h : isSeparator c = true) :
    Separated (c :: cs) := by
  rintro d ⟨⟩
  exact h

lemma mem_of_isSeparator {c : Char} (h : isSeparator c = true) :
    c ∈ [' ', '\n', ';', ',', '(', ')'] := by
  simpa [isSeparator, or_assoc] using h

/-- That a class holds no character of a list is put as a test, which is quick to decide. -/
lemma eq_false_of_mem {p : Char → Bool} {c : Char} {ds : List Char}
    (hds : ds.all (fun d => !p d) = true) (hc : c ∈ ds) : p c = false := by
  simpa using List.all_eq_true.1 hds c hc

lemma isWord_of_isSeparator {c : Char} (h : isSeparator c = true) : Text.isWord c = false :=
  eq_false_of_mem (by decide) (mem_of_isSeparator h)

lemma isDigit_of_isSeparator {c : Char} (h : isSeparator c = true) : c.isDigit = false :=
  eq_false_of_mem (by decide) (mem_of_isSeparator h)

lemma startsWord_of_isDigit {c : Char} (h : c.isDigit = true) : Text.startsWord c = false := by
  simp only [Char.isDigit, ge_iff_le, Bool.and_eq_true, decide_eq_true_eq,
    UInt32.le_iff_toNat_le] at h
  have hval : c.toNat = c.val.toNat := rfl
  have h0 : '0'.val.toNat = 48 := rfl
  have h9 : '9'.val.toNat = 57 := rfl
  have hu : c ≠ '_' := by
    rintro rfl
    exact absurd h.2 (by decide)
  have ha : c.isAlpha = false := by
    have hbelow : ∀ l ∈ ['A', 'a'], ¬ l.val ≤ c.val := by
      intro l hl
      have h64 : 64 < l.val.toNat := by
        simp only [List.mem_cons, List.not_mem_nil, or_false] at hl
        rcases hl with rfl | rfl <;> decide
      rw [UInt32.le_iff_toNat_le]
      omega
    have hupper : c.isUpper = false := decide_eq_false fun hc => hbelow 'A' (by simp) hc.1
    have hlower : c.isLower = false :=
      Bool.and_eq_false_iff.2 (.inl (decide_eq_false (hbelow 'a' (by simp))))
    exact Bool.or_eq_false_iff.2 ⟨hupper, hlower⟩
  simp [Text.startsWord, Text.isLetter, show c.toNat < 128 by omega, ha, hu]

lemma ne_of_holds {p : Char → Bool} {c d : Char} (hc : p c = true) (hd : p d = false) : c ≠ d := by
  rintro rfl
  rw [hc] at hd
  cases hd

/-- A character of a class that holds none of those that gaps start with. -/
lemma startsNoGap_of_holds {p : Char → Bool} {c : Char} (hc : p c = true)
    (hp : [' ', '\t', '\r', '\n', '#', '/'].all (fun d => !p d) = true) :
    isSpace c = false ∧ c ≠ '#' ∧ c ≠ '/' := by
  have hne (d : Char) (hd : d ∈ [' ', '\t', '\r', '\n', '#', '/']) : c ≠ d :=
    ne_of_holds hc (eq_false_of_mem hp hd)
  refine ⟨?_, hne '#' (by decide), hne '/' (by decide)⟩
  simp [isSpace, hne ' ' (by decide), hne '\t' (by decide), hne '\r' (by decide),
    hne '\n' (by decide)]

lemma not_quote_of_holds {p : Char → Bool} {c : Char} (hc : p c = true)
    (hp : p '"' = false ∧ p '\'' = false) : ¬ (c = '"' ∨ c = '\'') := by
  rintro (rfl | rfl)
  · exact ne_of_holds hc hp.1 rfl
  · exact ne_of_holds hc hp.2 rfl

lemma skipGap_of_ne {c : Char} {cs : List Char} (hs : isSpace c = false) (hc : c ≠ '#')
    (hslash : c = '/' → cs.head? ≠ some '*') : skipGap (c :: cs) = ⟨[], c :: cs, true⟩ := by
  rw [skipGap.eq_def]
  split
  · rename_i h
    cases h
  · rename_i h
    cases h
    exact absurd rfl hc
  · rename_i h
    cases h
    exact absurd rfl (hslash rfl)
  · rename_i h
    cases h
    rw [if_neg (by rw [hs]; decide)]

lemma skipGap_quote {q : Char} (hq : q = '\'' ∨ q = '"') (cs : List Char) :
    skipGap (q :: cs) = ⟨[], q :: cs, true⟩ := by
  refine skipGap_of_ne ?_ ?_ fun h => ?_
  · rcases hq with rfl | rfl <;> rfl
  · rcases hq with rfl | rfl <;> decide
  · rcases hq with rfl | rfl <;> exact absurd h (by decide)

lemma skipGap_space {c : Char} (h : isSpace c = true) (cs : List Char) :
    skipGap (c :: cs) = (skipGap cs).after [c] := by
  rw [skipGap, if_pos h]
  · rintro rfl
    cases h
  · rintro ds rfl -
    cases h

lemma readLexeme_quote {q : Char} (hq : q = '\'' ∨ q = '"') (before : Option Kind)
    (cs : List Char) : readLexeme before q cs = readString q cs := by
  rw [readLexeme, if_pos hq.symm]

/-! ## Reading a token back -/

/-- A text that starts with no gap starts with the token of this kind and payload, which goes as
far as `rest`. -/
def Heads (before : Option Kind) (cs : List Char) (k : Kind) (p : Payload) (rest : List Char) :
    Prop :=
  ∃ c ds, cs = c :: ds ∧ skipGap cs = ⟨[], cs, true⟩ ∧
    (readLexeme before c ds).found = .ok (k, p) ∧ (readLexeme before c ds).rest = rest

lemma heads_of_ne (c : Char) (ds : List Char) {rest : List Char} {before : Option Kind} {k : Kind}
    {p : Payload}
    (hc : isSpace c = false ∧ c ≠ '#' ∧ c ≠ '/') (hf : (readLexeme before c ds).found = .ok (k, p))
    (hr : (readLexeme before c ds).rest = rest) : Heads before (c :: ds) k p rest :=
  ⟨c, ds, rfl, skipGap_of_ne hc.1 hc.2.1 fun h => absurd h hc.2.2, hf, hr⟩

section Append

variable {p : Char → Bool} {cs rest : List Char}

lemma takeWhile_append_of_head (hcs : ∀ c ∈ cs, p c = true)
    (hrest : ∀ c ∈ rest.head?, p c = false) : (cs ++ rest).takeWhile p = cs := by
  rw [List.takeWhile_append_of_pos hcs]
  cases rest with
  | nil => simp
  | cons c rest => simp [hrest c rfl]

lemma dropWhile_append_of_head (hcs : ∀ c ∈ cs, p c = true)
    (hrest : ∀ c ∈ rest.head?, p c = false) : (cs ++ rest).dropWhile p = rest := by
  rw [List.dropWhile_append_of_pos hcs]
  cases rest with
  | nil => rfl
  | cons c rest => simp [hrest c rfl]

end Append

lemma heads_word {w : String} {rest : List Char} (h : IsWord w.toList) (hrest : Separated rest)
    (before : Option Kind) :
    Heads before (w.toList ++ rest) (classifyWord w).1 (classifyWord w).2 rest := by
  obtain ⟨c, ds, hw, hc, hds⟩ := h
  have hword : ∀ d ∈ c :: ds, Text.isWord d = true := by
    intro d hd
    rcases List.mem_cons.1 hd with rfl | hd
    · exact Text.isWord_of_startsWord hc
    · exact hds d hd
  have hend : ∀ e ∈ rest.head?, Text.isWord e = false :=
    fun e he => isWord_of_isSeparator (hrest e he)
  have htake := takeWhile_append_of_head hword hend
  have hdrop := dropWhile_append_of_head hword hend
  -- a word is tried only where no number starts
  have hdigit : ¬ c.isDigit = true := by
    intro hd
    rw [startsWord_of_isDigit hd] at hc
    cases hc
  have hlexeme : readLexeme before c (ds ++ rest) = readWord (c :: ds ++ rest) := by
    rw [readLexeme, if_neg (not_quote_of_holds hc (by decide)), if_neg hdigit, if_pos hc]
    rfl
  rw [hw, List.cons_append]
  refine heads_of_ne _ _ (startsNoGap_of_holds hc (by decide)) ?_ ?_
  · rw [hlexeme, readWord, htake, ← hw, String.ofList_toList]
  · rw [hlexeme, readWord, hdrop]

lemma heads_minus {rest : List Char} (hrest : Separated rest) (before : Option Kind) :
    Heads before ('-' :: rest) .operator (.text "-") rest := by
  cases rest with
  | nil => exact heads_of_ne _ _ (by decide) rfl rfl
  | cons d rest =>
    have hd := mem_of_isSeparator (hrest d rfl)
    simp only [List.mem_cons, List.not_mem_nil, or_false] at hd
    rcases hd with rfl | rfl | rfl | rfl | rfl | rfl <;> exact heads_of_ne _ _ (by decide) rfl rfl

lemma heads_slash {rest : List Char} (hrest : Separated rest) (before : Option Kind) :
    Heads before ('/' :: rest) .operator (.text "/") rest := by
  refine ⟨'/', rest, rfl, skipGap_of_ne rfl (by decide) fun _ h => ?_, rfl, rfl⟩
  exact absurd (hrest _ h) (by decide)

lemma heads_symbol {s : String} {kind : Kind} {rest : List Char} (h : (s, kind) ∈ symbols)
    (hrest : kind = .leftParen ∨ Separated rest) (before : Option Kind) :
    Heads before (s.toList ++ rest) kind (.text s) rest := by
  simp only [symbols, List.mem_cons, Prod.mk.injEq, List.not_mem_nil, or_false] at h
  rcases h with ⟨rfl, rfl⟩ | ⟨rfl, rfl⟩ | ⟨rfl, rfl⟩ | ⟨rfl, rfl⟩ | h
  · exact heads_of_ne '+' _ (by decide) rfl rfl
  · exact heads_minus (hrest.resolve_left (by decide)) before
  · exact heads_of_ne '*' _ (by decide) rfl rfl
  · exact heads_slash (hrest.resolve_left (by decide)) before
  · rcases h with ⟨rfl, rfl⟩ | ⟨rfl, rfl⟩ | ⟨rfl, rfl⟩ | ⟨rfl, rfl⟩ | ⟨rfl, rfl⟩ | ⟨rfl, rfl⟩ |
      ⟨rfl, rfl⟩ | ⟨rfl, rfl⟩ | ⟨rfl, rfl⟩ | ⟨rfl, rfl⟩
    · exact heads_of_ne '=' ('=' :: rest) (by decide) rfl rfl
    · exact heads_of_ne '!' ('=' :: rest) (by decide) rfl rfl
    · exact heads_of_ne ':' ('=' :: rest) (by decide) rfl rfl
    · exact heads_of_ne '-' ('>' :: rest) (by decide) rfl rfl
    · exact heads_of_ne '(' _ (by decide) rfl rfl
    · exact heads_of_ne ')' _ (by decide) rfl rfl
    · exact heads_of_ne '\x7b' _ (by decide) rfl rfl
    · exact heads_of_ne '\x7d' _ (by decide) rfl rfl
    · exact heads_of_ne ',' _ (by decide) rfl rfl
    · exact heads_of_ne ';' _ (by decide) rfl rfl

/-! ## Integers -/

/-- ASCII digits denote the number that they are read as. -/
lemma ofDigits_map_asciiDigitValue (cs : List Char) :
    Numeral.ofDigits (cs.map asciiDigitValue) = Nat.ofDigitChars 10 cs 0 := by
  rw [Numeral.ofDigits, List.foldl_map]
  rfl

lemma ofDigits_toDigits (m : Nat) :
    Numeral.ofDigits ((Nat.toDigits 10 m).map asciiDigitValue) = m := by
  rw [ofDigits_map_asciiDigitValue, Nat.ofDigitChars_ten_toDigits]

/-- A number that can be written has no more digits than can be read. -/
lemma length_toDigits_le {m : Nat} (hm : m < Numeral.writingLimit) :
    (Nat.toDigits 10 m).length ≤ Numeral.maxDigits := by
  have hpos : 0 < Numeral.maxDigits := by decide
  -- whatever the limit is: its power is not to be computed
  unfold Numeral.writingLimit at hm
  generalize Numeral.maxDigits = limit at hpos hm ⊢
  exact (Nat.length_toDigits_le_iff (by decide) hpos).2 hm

lemma readNumber_toDigits {m : Nat} {rest : List Char} (hm : m < Numeral.writingLimit)
    (hrest : Separated rest) (negative : Bool) :
    (readNumber negative (Nat.toDigits 10 m ++ rest)).found =
        .ok (.intLiteral, .int (if negative then -(m : Int) else m)) ∧
      (readNumber negative (Nat.toDigits 10 m ++ rest)).rest = rest := by
  have hdigit : ∀ c ∈ Nat.toDigits 10 m, c.isDigit = true :=
    fun c hc => Nat.isDigit_of_mem_toDigits (by decide) (by decide) hc
  have hend : ∀ c ∈ rest.head?, c.isDigit = false :=
    fun c hc => isDigit_of_isSeparator (hrest c hc)
  have htake := takeWhile_append_of_head hdigit hend
  have hdrop := dropWhile_append_of_head hdigit hend
  refine ⟨?_, by rw [readNumber, hdrop]⟩
  have hread : Numeral.ofSignAndDigits negative ((Nat.toDigits 10 m).map asciiDigitValue) =
      .ok (if negative then -(m : Int) else m) := by
    rw [Numeral.ofSignAndDigits, List.length_map, if_neg (Nat.not_lt.2 (length_toDigits_le hm)),
      ofDigits_toDigits]
  rw [readNumber, htake, hread]

lemma exists_cons_toDigits (m : Nat) :
    ∃ c ds, Nat.toDigits 10 m = c :: ds ∧ c.isDigit = true := by
  obtain ⟨c, ds, hcs⟩ := List.exists_cons_of_ne_nil (Nat.toDigits_ne_nil (n := m) (b := 10))
  refine ⟨c, ds, hcs, Nat.isDigit_of_mem_toDigits (n := m) (b := 10) (by decide) (by decide) ?_⟩
  rw [hcs]
  exact List.mem_cons_self

lemma heads_nat {m : Nat} {rest : List Char} (hm : m < Numeral.writingLimit)
    (hrest : Separated rest) (before : Option Kind) :
    Heads before (Nat.toDigits 10 m ++ rest) .intLiteral (.int m) rest := by
  have hread := readNumber_toDigits hm hrest false
  obtain ⟨c, ds, hcs, hc⟩ := exists_cons_toDigits m
  rw [hcs] at hread ⊢
  have hlexeme : readLexeme before c (ds ++ rest) = readNumber false (c :: ds ++ rest) := by
    rw [readLexeme, if_neg (not_quote_of_holds hc (by decide)), if_pos hc]
    rfl
  refine heads_of_ne _ _ (startsNoGap_of_holds hc (by decide)) ?_ ?_
  · exact (congrArg Lexeme.found hlexeme).trans hread.1
  · exact (congrArg Lexeme.rest hlexeme).trans hread.2

lemma readSymbol_negative {before : Option Kind} {d : Char} (hd : d.isDigit = true)
    (hdue : operandDue before = true) (cs : List Char) :
    readSymbol before '-' (d :: cs) = readNumber true (d :: cs) := by
  rw [readSymbol, if_pos (by rw [hd, hdue]; rfl)]
  rintro rfl
  cases hd

lemma heads_negative {m : Nat} {rest : List Char} {before : Option Kind}
    (hm : m < Numeral.writingLimit) (hrest : Separated rest) (hdue : operandDue before = true) :
    Heads before ('-' :: (Nat.toDigits 10 m ++ rest)) .intLiteral (.int (-(m : Int))) rest := by
  have hread := readNumber_toDigits hm hrest true
  obtain ⟨c, ds, hcs, hc⟩ := exists_cons_toDigits m
  rw [hcs] at hread ⊢
  have hlexeme : readLexeme before '-' (c :: ds ++ rest) = readNumber true (c :: ds ++ rest) :=
    readSymbol_negative hc hdue (ds ++ rest)
  refine heads_of_ne _ _ (by decide) ?_ ?_
  · exact (congrArg Lexeme.found hlexeme).trans hread.1
  · exact (congrArg Lexeme.rest hlexeme).trans hread.2

lemma heads_int {n : Int} {rest : List Char} {before : Option Kind}
    (hn : n.natAbs < Numeral.writingLimit) (hrest : Separated rest)
    (hdue : n < 0 → operandDue before = true) :
    Heads before ((toString n).toList ++ rest) .intLiteral (.int n) rest := by
  rw [Int.toString_eq_repr, Int.repr_eq_if]
  split
  · rename_i h
    rw [Nat.toList_repr]
    have hhead := heads_nat (m := n.toNat) (by omega) hrest before
    rwa [Int.toNat_of_nonneg h] at hhead
  · rename_i h
    rw [String.toList_append, Nat.toList_repr]
    have hhead := heads_negative (m := (-n).toNat) (by omega) hrest (hdue (by omega))
    rw [Int.toNat_of_nonneg (by omega), Int.neg_neg] at hhead
    exact hhead

/-! ## Strings -/

/-- The characters that quoting does not write by their code points. -/
def isRereadable (c : Char) : Bool :=
  Text.isPrintable c || c == '\n' || c == '\r' || c == '\t'

lemma readStringBody_escape {q c v : Char} (h : escapeValue? c = some v) (cs : List Char) :
    readStringBody q ('\\' :: c :: cs) = (readStringBody q cs).after ['\\', c] v := by
  rw [readStringBody, h]

lemma readStringBody_badEscape {q c : Char} (h : escapeValue? c = none) (cs : List Char) :
    readStringBody q ('\\' :: c :: cs) = ⟨['\\', c], [], cs, .badEscape (some c)⟩ := by
  rw [readStringBody, h]

/-- Three things may come of a character that is no backslash. -/
lemma readStringBody_plain {c : Char} (hc : c ≠ '\\') (q : Char) (cs : List Char) :
    readStringBody q (c :: cs) =
      if c = q then ⟨[c], [], cs, .closed⟩
      else if c = '\n' then ⟨[], [], c :: cs, .unclosed⟩
      else (readStringBody q cs).after [c] c := by
  rw [readStringBody.eq_def]
  split
  · rename_i h
    cases h
  · rename_i h
    cases h
    exact absurd rfl hc
  · rename_i h
    cases h
    exact absurd rfl hc
  · rename_i h
    cases h
    rfl

lemma readStringBody_close {q : Char} (hq : q ≠ '\\') (cs : List Char) :
    readStringBody q (q :: cs) = ⟨[q], [], cs, .closed⟩ := by
  rw [readStringBody_plain hq, if_pos rfl]

lemma readStringBody_line {q : Char} (hq : '\n' ≠ q) (cs : List Char) :
    readStringBody q ('\n' :: cs) = ⟨[], [], '\n' :: cs, .unclosed⟩ := by
  rw [readStringBody_plain (by decide), if_neg hq, if_pos rfl]

lemma readStringBody_self {q c : Char} (hc : c ≠ '\\' ∧ c ≠ q ∧ c ≠ '\n') (cs : List Char) :
    readStringBody q (c :: cs) = (readStringBody q cs).after [c] c := by
  rw [readStringBody_plain hc.1, if_neg hc.2.1, if_neg hc.2.2]

lemma escapeCode_eq (c : Char) :
    ∃ d ds, Text.escapeCode c = '\\' :: d :: ds ∧ escapeValue? d = none := by
  simp only [Text.escapeCode]
  split
  · exact ⟨'x', _, rfl, rfl⟩
  · split
    · exact ⟨'u', _, rfl, rfl⟩
    · exact ⟨'U', _, rfl, rfl⟩

/-- How a character is written decides how it is read. -/
lemma readStringBody_escapeChar {q : Char} (hq : q = '\'' ∨ q = '"') (c : Char) (cs : List Char) :
    (isRereadable c = true ∧ ∃ written, readStringBody q (Text.escapeChar q c ++ cs) =
        (readStringBody q cs).after written c) ∨
      (isRereadable c = false ∧
        ∃ d, (readStringBody q (Text.escapeChar q c ++ cs)).ending = .badEscape (some d)) := by
  -- the five characters with an escape of their own come before those that are printable
  by_cases hself : c = '\\' ∨ c = q
  · rw [Text.escapeChar, if_pos (by simpa using hself)]
    refine .inl ⟨?_, _, readStringBody_escape ?_ cs⟩
    · rcases hq with rfl | rfl <;> rcases hself with rfl | rfl <;> decide
    · rcases hq with rfl | rfl <;> rcases hself with rfl | rfl <;> rfl
  rw [Text.escapeChar, if_neg (by simpa using hself)]
  by_cases hn : c = '\n'
  · rw [if_pos hn, hn]
    exact .inl ⟨by decide, _, readStringBody_escape rfl cs⟩
  rw [if_neg hn]
  by_cases hr : c = '\r'
  · rw [if_pos hr, hr]
    exact .inl ⟨by decide, _, readStringBody_escape rfl cs⟩
  rw [if_neg hr]
  by_cases ht : c = '\t'
  · rw [if_pos ht, ht]
    exact .inl ⟨by decide, _, readStringBody_escape rfl cs⟩
  rw [if_neg ht]
  rw [not_or] at hself
  split
  · rename_i hp
    refine .inl ⟨by simp [isRereadable, hp], _, readStringBody_self ?_ cs⟩
    exact ⟨hself.1, hself.2, hn⟩
  · rename_i hp
    refine .inr ⟨by simp [isRereadable, hp, hn, hr, ht], ?_⟩
    obtain ⟨d, ds, hd, hbad⟩ := escapeCode_eq c
    rw [hd, List.cons_append, List.cons_append, readStringBody_badEscape hbad]
    exact ⟨d, rfl⟩

/-- What was written between quotes is read back, up to the first character that quoting writes by
its code point. -/
lemma readStringBody_quoted {q : Char} (hq : q = '\'' ∨ q = '"') (cs rest : List Char) :
    ((∀ c ∈ cs, isRereadable c = true) ∧ ∃ text,
      readStringBody q (cs.flatMap (Text.escapeChar q) ++ q :: rest) = ⟨text, cs, rest, .closed⟩) ∨
    ((∃ c ∈ cs, isRereadable c = false) ∧ ∃ d,
      (readStringBody q (cs.flatMap (Text.escapeChar q) ++ q :: rest)).ending =
        .badEscape (some d)) := by
  induction cs with
  | nil =>
    refine .inl ⟨by simp, [q], readStringBody_close ?_ rest⟩
    rcases hq with rfl | rfl <;> decide
  | cons c cs ih =>
    rw [List.flatMap_cons, List.append_assoc]
    obtain ⟨hc, written, hread⟩ | ⟨hc, hread⟩ :=
      readStringBody_escapeChar hq c (cs.flatMap (Text.escapeChar q) ++ q :: rest)
    · rw [hread]
      obtain ⟨hcs, text, hrest⟩ | ⟨⟨d, hd, hbad⟩, e, he⟩ := ih
      · rw [hrest]
        exact .inl ⟨List.forall_mem_cons.2 ⟨hc, hcs⟩, _, rfl⟩
      · exact .inr ⟨⟨d, List.mem_cons_of_mem c hd, hbad⟩, e, he⟩
    · exact .inr ⟨⟨c, List.mem_cons_self, hc⟩, hread⟩

/-- A quoted text is read as a string literal, or stops the scanner. -/
lemma readLexeme_quoted (s rest : List Char) (before : Option Kind) :
    ∃ q ds, Text.quoteChars s ++ rest = q :: ds ∧ skipGap (q :: ds) = ⟨[], q :: ds, true⟩ ∧
      (((∀ c ∈ s, isRereadable c = true) ∧
        (readLexeme before q ds).found = .ok (.stringLiteral, .text (String.ofList s)) ∧
          (readLexeme before q ds).rest = rest) ∨
        ((∃ c ∈ s, isRereadable c = false) ∧
          ∃ d, (readLexeme before q ds).found = .error (.invalidEscape (some d)))) := by
  have hq := Text.quoteFor_eq_or s
  have hsplit : Text.quoteChars s ++ rest = Text.quoteFor s ::
      (s.flatMap (Text.escapeChar (Text.quoteFor s)) ++ Text.quoteFor s :: rest) := by
    simp [Text.quoteChars]
  refine ⟨_, _, hsplit, skipGap_quote hq _, ?_⟩
  have hread := readStringBody_quoted hq s rest
  rw [readLexeme_quote hq, readString]
  obtain ⟨hs, text, hbody⟩ | ⟨hs, d, hbody⟩ := hread
  · rw [hbody]
    exact .inl ⟨hs, rfl, rfl⟩
  · simp only [hbody]
    exact .inr ⟨hs, d, rfl⟩

/-! ## Tokens -/

/-- The value of a string literal. -/
def string? (t : Token) : Option String :=
  match t.kind, t.payload with
  | .stringLiteral, .text s => some s
  | _, _ => none

/-- Quoting writes no character of the text by its code point. -/
def Rereadable (s : String) : Prop := ∀ c ∈ s.toList, isRereadable c = true

/-- Whether a token is an integer literal below zero. -/
def isNegative (t : Token) : Bool :=
  match t.payload with
  | .int n => n < 0
  | _ => false

lemma text_ofWord (w : String) (span : Option Span) : (ofWord w span).text = w := by
  obtain ⟨rfl, h⟩ | ⟨rfl, h⟩ | ⟨b, rfl, h⟩ | ⟨-, h⟩ | h := classifyWord_cases w
  · simp [text, ofWord, h]
  · simp [text, ofWord, h]
  · simp [text, ofWord, h, Payload.truth]
  · simp [text, ofWord, h, Payload.display]
  · simp [text, ofWord, h, Payload.display]

lemma string?_ofWord (w : String) (span : Option Span) : (ofWord w span).string? = none := by
  obtain ⟨-, h⟩ | ⟨-, h⟩ | ⟨b, -, h⟩ | ⟨-, h⟩ | h := classifyWord_cases w <;>
    simp [string?, ofWord, h]

lemma text_of_mem_symbols {s : String} {kind : Kind} (h : (s, kind) ∈ symbols)
    (span : Option Span) : (⟨kind, .text s, s, span⟩ : Token).text = s := by
  simp only [symbols, List.mem_cons, Prod.mk.injEq, List.not_mem_nil, or_false] at h
  rcases h with ⟨rfl, rfl⟩ | ⟨rfl, rfl⟩ | ⟨rfl, rfl⟩ | ⟨rfl, rfl⟩ | ⟨rfl, rfl⟩ | ⟨rfl, rfl⟩ |
    ⟨rfl, rfl⟩ | ⟨rfl, rfl⟩ | ⟨rfl, rfl⟩ | ⟨rfl, rfl⟩ | ⟨rfl, rfl⟩ | ⟨rfl, rfl⟩ | ⟨rfl, rfl⟩ |
    ⟨rfl, rfl⟩ <;> rfl

/-- A text that starts with no gap starts with a string that cannot be read. -/
def Faults (before : Option Kind) (cs : List Char) : Prop :=
  ∃ c ds d, cs = c :: ds ∧ skipGap cs = ⟨[], cs, true⟩ ∧
    (readLexeme before c ds).found = .error (.invalidEscape (some d))

/-- The text of a token is read as the token, but for a string that was written with a code point.
-/
lemma heads_text {t : Token} {rest : List Char} {before : Option Kind} (ht : Lexed t)
    (hrest : t.kind = .leftParen ∨ Separated rest)
    (hdue : t.isNegative = true → operandDue before = true) :
    ((∀ s ∈ t.string?, Rereadable s) ∧
        Heads before (t.text.toList ++ rest) t.kind t.payload rest) ∨
      ((∃ s ∈ t.string?, ¬ Rereadable s) ∧ Faults before (t.text.toList ++ rest)) := by
  cases ht with
  | @word w span hw =>
    have hkind : (ofWord w span).kind ≠ .leftParen :=
      ne_of_mem_of_not_mem (kind_ofWord w span) (by decide)
    rw [text_ofWord, string?_ofWord]
    exact .inl ⟨by simp, heads_word hw (hrest.resolve_left hkind) before⟩
  | int hn =>
    refine .inl ⟨by simp [string?], heads_int hn (hrest.resolve_left nofun) fun h => hdue ?_⟩
    simpa [isNegative] using h
  | @string s lexeme span =>
    obtain ⟨q, ds, hsplit, hgap, hread⟩ := readLexeme_quoted s.toList rest before
    have htext : (⟨.stringLiteral, .text s, lexeme, span⟩ : Token).text.toList =
        Text.quoteChars s.toList := String.toList_ofList
    rw [htext, hsplit]
    obtain ⟨hs, hfound, hr⟩ | ⟨⟨c, hc, hbad⟩, d, hfound⟩ := hread
    · refine .inl ⟨?_, q, ds, rfl, hgap, ?_, hr⟩
      · rintro u ⟨⟩
        exact hs
      · rw [hfound, String.ofList_toList]
    · refine .inr ⟨⟨s, rfl, fun h => ?_⟩, q, ds, d, rfl, hgap, hfound⟩
      rw [h c hc] at hbad
      cases hbad
  | symbol h =>
    rw [text_of_mem_symbols h]
    refine .inl ⟨?_, heads_symbol h hrest before⟩
    have hall : ∀ x ∈ symbols, x.2 ≠ .stringLiteral := by decide
    have hkind := hall _ h
    simp [string?, hkind]

end Scriptlet.Token
