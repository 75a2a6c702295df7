import Scriptlet.Proofs.Scanning.ReadBack

/-!
# What lexemes say

The kind of a token and the text that it was read from decide its payload: an integer literal has
its decimal value, a string literal has the text that is encoded between its quotes, and all other
tokens but the truth literals have their lexeme.  What stands behind a word or an integer literal
does not continue it, and a minus sign before a digit belongs to a literal just where an operand is
due (`faithful_readLexeme`).  In a string, what is read encodes a value up to what ends the string,
whether that closes it or not (`ends_readStringBody`).
-/

namespace Scriptlet.Token

/-- The characters that make an escape behind a backslash, with what they stand for. -/
def escapes : List (Char × Char) :=
  [('n', '\n'), ('t', '\t'), ('r', '\r'), ('\\', '\\'), ('"', '"'), ('\'', '\''), ('0', '\x00')]

/-- Between quotes `q`, the text stands for the value. -/
inductive Encodes (q : Char) : List Char → List Char → Prop
  /-- Nothing. -/
  | nil : Encodes q [] []
  /-- A character that stands for itself. -/
  | raw {c : Char} {text value : List Char} (hquote : c ≠ q) (hescape : c ≠ '\\') (hline : c ≠ '\n')
      (h : Encodes q text value) : Encodes q (c :: text) (c :: value)
  /-- An escape. -/
  | escape {c v : Char} {text value : List Char} (hc : (c, v) ∈ escapes)
      (h : Encodes q text value) : Encodes q ('\\' :: c :: text) (v :: value)

/-- The inside of a string between quotes `q` ends: `written` is what belongs to the ending, and the
other text stands behind that. -/
inductive Ends (q : Char) : StringEnd → (written : List Char) → List Char → Prop
  /-- With the closing quote. -/
  | quote (rest : List Char) : Ends q .closed [q] rest
  /-- With a backslash that makes no escape with the character behind it. -/
  | unknown {c : Char} (hc : ∀ v, (c, v) ∉ escapes) (rest : List Char) :
      Ends q (.badEscape (some c)) ['\\', c] rest
  /-- With a backslash at the end of the text. -/
  | backslash : Ends q (.badEscape none) ['\\'] []
  /-- With the line. -/
  | line (rest : List Char) : Ends q .unclosed [] ('\n' :: rest)
  /-- With the text. -/
  | text : Ends q .unclosed [] []

/-- A token of the kind that is read from the text has the payload. -/
inductive Decodes : Kind → List Char → Payload → Prop
  /-- An integer literal without a sign. -/
  | int {ds : List Char} (hds : ∀ d ∈ ds, d.isDigit = true) (hne : ds ≠ []) :
      Decodes .intLiteral ds (.int (Nat.ofDigitChars 10 ds 0))
  /-- An integer literal with a minus sign. -/
  | negative {ds : List Char} (hds : ∀ d ∈ ds, d.isDigit = true) (hne : ds ≠ []) :
      Decodes .intLiteral ('-' :: ds) (.int (-(Nat.ofDigitChars 10 ds 0 : Int)))
  /-- A string literal. -/
  | string {q : Char} {text value : List Char} (hq : q = '"' ∨ q = '\'')
      (h : Encodes q text value) :
      Decodes .stringLiteral (q :: (text ++ [q])) (.text (String.ofList value))
  /-- A truth literal. -/
  | bool (b : Bool) : Decodes .boolLiteral (if b then "true" else "false").toList (.bool b)
  /-- The end of the tokens. -/
  | eof : Decodes .eof [] .absent
  /-- Any other token. -/
  | other {k : Kind} (hk : k ∉ [.intLiteral, .stringLiteral, .boolLiteral, .eof]) (s : String) :
      Decodes k s.toList (.text s)

/-- The words that are no names. -/
def reserved : List String :=
  ["func", "return", "true", "false", "int", "string", "bool", "_none"]

/-- A token of kind `k` is read between others: `before` is the kind of the one before it, and
`rest` is what stands behind its text. -/
structure Reading (before : Option Kind) (text rest : List Char) (k : Kind) (p : Payload) :
    Prop where
  /-- The payload is what the text says. -/
  decodes : Decodes k text p
  /-- A reserved word is no name. -/
  name : k = .identifier → String.ofList text ∉ reserved
  /-- A word goes as far as it can. -/
  word : k ∈ [.identifier, .typeName, .boolLiteral, .func, .ret] →
    ∀ c ∈ rest.head?, Text.isWord c = false
  /-- An integer literal goes as far as it can. -/
  digits : k = .intLiteral → ∀ c ∈ rest.head?, c.isDigit = false
  /-- The minus sign of a literal stands where an operand is due. -/
  sign : k = .intLiteral → '-' ∈ text.head? → operandDue before = true
  /-- The operator `-` stands before a digit only where no operand is due. -/
  minus : k = .operator → text = ['-'] → ∀ c ∈ rest.head?, c.isDigit = true →
    operandDue before = false

/-! ## Strings -/

lemma mem_escapes {c v : Char} (h : escapeValue? c = some v) : (c, v) ∈ escapes := by
  unfold escapeValue? at h
  split at h <;> cases h <;> decide

lemma escapeValue?_of_mem {c v : Char} (h : (c, v) ∈ escapes) : escapeValue? c = some v := by
  have hall : ∀ x ∈ escapes, escapeValue? x.1 = some x.2 := by decide
  exact hall _ h

lemma escapeValue?_eq_none_iff {c : Char} : escapeValue? c = none ↔ ∀ v, (c, v) ∉ escapes := by
  refine ⟨fun h v hv => ?_, fun h => Option.eq_none_iff_forall_ne_some.2 fun v hv => ?_⟩
  · rw [escapeValue?_of_mem hv] at h
    cases h
  · exact h v (mem_escapes hv)

/-- What is read is an encoding of the value, as far as something ends it. -/
lemma ends_readStringBody (q : Char) (cs : List Char) :
    ∃ text written, (readStringBody q cs).text = text ++ written ∧
      Encodes q text (readStringBody q cs).value ∧
      Ends q (readStringBody q cs).ending written (readStringBody q cs).rest := by
  fun_induction readStringBody q cs with
  | case1 => exact ⟨[], _, rfl, .nil, .text⟩
  | case2 => exact ⟨[], _, rfl, .nil, .backslash⟩
  | case3 c cs v hv ih =>
    obtain ⟨text, written, htext, hencodes, hends⟩ := ih
    refine ⟨'\\' :: c :: text, written, ?_, .escape (mem_escapes hv) hencodes, hends⟩
    simp [StringBody.after, htext]
  | case4 c cs hc => exact ⟨[], _, rfl, .nil, .unknown (escapeValue?_eq_none_iff.1 hc) cs⟩
  | case5 cs => exact ⟨[], _, rfl, .nil, .quote cs⟩
  | case6 cs => exact ⟨[], _, rfl, .nil, .line cs⟩
  | case7 c cs hend hescape hquote hline ih =>
    obtain ⟨text, written, htext, hencodes, hends⟩ := ih
    have hc : c ≠ '\\' := by
      rintro rfl
      cases cs with
      | nil => exact hend rfl rfl
      | cons d ds => exact hescape d ds rfl rfl
    refine ⟨c :: text, written, ?_, .raw hquote hc hline hencodes, hends⟩
    simp [StringBody.after, htext]

/-- What is read as far as the closing quote encodes the value. -/
lemma encodes_readStringBody {q : Char} {cs : List Char}
    (h : (readStringBody q cs).ending = .closed) :
    ∃ text, (readStringBody q cs).text = text ++ [q] ∧
      Encodes q text (readStringBody q cs).value := by
  obtain ⟨text, written, htext, hencodes, hends⟩ := ends_readStringBody q cs
  rw [h] at hends
  cases hends with
  | quote => exact ⟨text, htext, hencodes⟩

/-! ## Whatever is read -/

/-- If this is a token, then it says what its text says, and it goes as far as it can. -/
def Lexeme.Faithful (before : Option Kind) (l : Lexeme) : Prop :=
  ∀ k p, l.found = .ok (k, p) → Reading before l.text l.rest k p

lemma faithful_readString (before : Option Kind) {q : Char} (hq : q = '"' ∨ q = '\'')
    (cs : List Char) : (readString q cs).Faithful before := by
  intro k p h
  simp only [readString] at h ⊢
  cases hend : (readStringBody q cs).ending with
  | unclosed =>
    rw [hend] at h
    cases h
  | badEscape c =>
    rw [hend] at h
    cases h
  | closed =>
    rw [hend] at h
    cases h
    obtain ⟨text, htext, hencodes⟩ := encodes_readStringBody hend
    rw [htext]
    refine ⟨.string hq hencodes, ?_, by simp, ?_, ?_, ?_⟩ <;> rintro ⟨⟩

lemma ofSignAndDigits_eq_ok {negative : Bool} {cs : List Char} {n : Int}
    (h : Numeral.ofSignAndDigits negative (cs.map asciiDigitValue) = .ok n) :
    n = if negative then -(Nat.ofDigitChars 10 cs 0 : Int) else Nat.ofDigitChars 10 cs 0 := by
  unfold Numeral.ofSignAndDigits at h
  split at h
  · cases h
  · rw [ofDigits_map_asciiDigitValue] at h
    exact (Except.ok.inj h).symm

/-- What is left behind the longest stretch of a class does not go on with the class. -/
lemma head?_dropWhile {p : Char → Bool} {cs : List Char} :
    ∀ c ∈ (cs.dropWhile p).head?, p c = false := by
  intro c hc
  have hhead := List.head?_dropWhile_not p cs
  rwa [hc] at hhead

lemma faithful_readNumber {before : Option Kind} {negative : Bool} {d : Char} {cs : List Char}
    (hd : d.isDigit = true) (hdue : negative = true → operandDue before = true) :
    (readNumber negative (d :: cs)).Faithful before := by
  intro k p h
  simp only [readNumber] at h ⊢
  have hds : ∀ c ∈ (d :: cs).takeWhile Char.isDigit, c.isDigit = true :=
    fun c hc => List.mem_takeWhile_imp hc
  have htake : (d :: cs).takeWhile Char.isDigit = d :: cs.takeWhile Char.isDigit :=
    List.takeWhile_cons_of_pos hd
  have hne : (d :: cs).takeWhile Char.isDigit ≠ [] := by
    rw [htake]
    exact List.cons_ne_nil _ _
  split at h
  · rename_i n hn
    cases h
    rw [ofSignAndDigits_eq_ok hn]
    cases negative with
    | true =>
      refine ⟨.negative hds hne, ?_, by simp, fun _ => head?_dropWhile, fun _ _ => hdue rfl, ?_⟩
      · rintro ⟨⟩
      · rintro ⟨⟩
    | false =>
      refine ⟨.int hds hne, ?_, by simp, fun _ => head?_dropWhile, fun _ hsign => ?_, ?_⟩
      · rintro ⟨⟩
      · -- without a sign the literal starts with a digit
        have hminus : d = '-' := by simpa [htake] using hsign
        rw [hminus] at hd
        exact absurd hd (by decide)
      · rintro ⟨⟩
  · cases h

lemma decodes_classifyWord (w : String) :
    Decodes (classifyWord w).1 w.toList (classifyWord w).2 := by
  obtain ⟨rfl, h⟩ | ⟨rfl, h⟩ | ⟨b, rfl, h⟩ | ⟨-, h⟩ | h := classifyWord_cases w
  · exact .other (by decide) "func"
  · exact .other (by decide) "return"
  · rw [h]
    exact .bool b
  · rw [h]
    exact .other (k := .typeName) (by decide) w
  · rw [h]
    exact .other (k := .identifier) (by decide) w

/-- The kind of a reserved word tells it from names. -/
lemma not_mem_reserved {w : String} (h : (classifyWord w).1 = .identifier) : w ∉ reserved := by
  have hall : ∀ w ∈ reserved, (classifyWord w).1 ≠ .identifier := by decide
  exact fun hmem => hall w hmem h

lemma faithful_readWord (before : Option Kind) (cs : List Char) :
    (readWord cs).Faithful before := by
  intro k p h
  have hkp : (k, p) = classifyWord (String.ofList (cs.takeWhile Text.isWord)) :=
    (Except.ok.inj h).symm
  have hkind : k ∈ [Kind.func, .ret, .boolLiteral, .typeName, .identifier] := by
    have hword := kind_ofWord (String.ofList (cs.takeWhile Text.isWord)) none
    rwa [ofWord, ← hkp] at hword
  have hdecodes := decodes_classifyWord (String.ofList (cs.takeWhile Text.isWord))
  have hname := not_mem_reserved (w := String.ofList (cs.takeWhile Text.isWord))
  rw [← hkp, String.toList_ofList] at hdecodes
  rw [← hkp] at hname
  refine ⟨hdecodes, hname, fun _ => head?_dropWhile, ?_, ?_, ?_⟩
  · rintro rfl
    exact absurd hkind (by decide)
  · rintro rfl
    exact absurd hkind (by decide)
  · rintro rfl
    exact absurd hkind (by decide)

lemma faithful_symbol {before : Option Kind} {kind : Kind} {text rest : List Char}
    (h : (String.ofList text, kind) ∈ symbols)
    (hminus : text = ['-'] → ∀ c ∈ rest.head?, c.isDigit = true → operandDue before = false) :
    (symbol kind text rest).Faithful before := by
  rintro k p ⟨⟩
  have hall : ∀ x ∈ symbols, x.2 ∉ [Kind.intLiteral, .stringLiteral, .boolLiteral, .eof] ∧
      x.2 ∉ [Kind.identifier, .typeName, .boolLiteral, .func, .ret] := by decide
  obtain ⟨hother, hword⟩ := hall _ h
  have hdecodes := Decodes.other hother (String.ofList text)
  rw [String.toList_ofList] at hdecodes
  refine ⟨hdecodes, ?_, fun h => absurd h hword, ?_, ?_, fun _ => hminus⟩
  · rintro rfl
    exact absurd List.mem_cons_self hword
  · rintro rfl
    exact absurd List.mem_cons_self hother
  · rintro rfl
    exact absurd List.mem_cons_self hother

lemma faithful_readSingle {before : Option Kind} {c : Char} {cs : List Char}
    (hminus : c = '-' → ∀ d ∈ cs.head?, d.isDigit = true → operandDue before = false) :
    (readSingle c cs).Faithful before := by
  unfold readSingle
  split
  · rename_i kind hkind
    refine faithful_symbol ?_ fun h => hminus (List.cons.inj h).1
    unfold symbolKind? at hkind
    split at hkind <;> cases hkind <;> decide
  · rintro k p ⟨⟩

lemma faithful_readSymbol (before : Option Kind) (c : Char) (cs : List Char) :
    (readSymbol before c cs).Faithful before := by
  unfold readSymbol
  split
  · exact faithful_symbol (by decide) nofun
  · exact faithful_symbol (by decide) nofun
  · exact faithful_symbol (by decide) nofun
  · exact faithful_symbol (by decide) nofun
  · rename_i d rest _
    split
    · rename_i h
      obtain ⟨hd, hdue⟩ := Bool.and_eq_true_iff.1 h
      exact faithful_readNumber hd fun _ => hdue
    · rename_i h
      refine faithful_readSingle fun _ e he hdigit => ?_
      obtain rfl : d = e := Option.some.inj he
      simpa [hdigit] using h
  · rename_i hsign
    refine faithful_readSingle fun hc d hd => ?_
    cases cs with
    | nil => cases hd
    | cons e rest => exact absurd rfl (hsign e rest hc)

/-- What is read off the start of a text says what its text says, and goes as far as it can. -/
theorem faithful_readLexeme (before : Option Kind) (c : Char) (cs : List Char) :
    (readLexeme before c cs).Faithful before := by
  unfold readLexeme
  split
  · rename_i hq
    exact faithful_readString before hq cs
  · split
    · rename_i hd
      exact faithful_readNumber hd nofun
    · split
      · exact faithful_readWord before (c :: cs)
      · exact faithful_readSymbol before c cs

end Scriptlet.Token
