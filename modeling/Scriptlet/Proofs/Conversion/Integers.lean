import Scriptlet.Proofs.Conversion.Numerals
import Scriptlet.Proofs.Safety.Standard
import Scriptlet.Proofs.Scanning.Progress

/-!
# Integers and their texts

Decimal texts become integers in the scanner, which knows ASCII digits only, and in `parse_int`,
which knows those of every script; `to_string` goes the other way.  All three agree, up to the
length that none of them exceeds (`Registry.integer_texts_agree`).

Settings are read by a reader that takes more texts for numerals than `parse_int` does, since it
knows underscores.  A test of the characters is all that tells the two apart
(`Numeral.readPlain_eq_readTested`).
-/

namespace Scriptlet

open Token

namespace Numeral

open Text

/-- Whether a text consists of decimal digits, one at least. -/
def isDecimal (cs : List Char) : Bool := !cs.isEmpty && cs.all isDecimalDigit

/-- Trims a text and, if behind a sign there are digits and nothing else, leaves it to the reader
that knows underscores too. -/
def readTested (cs : List Char) : Except Unreadable Int :=
  if isDecimal (splitSign (trim cs)).2 then readGrouped (trim cs) else .error .malformed

lemma isSome_digits? (cs : List Char) : (digits? cs).isSome = cs.all isDecimalDigit := by
  induction cs with
  | nil => rfl
  | cons c cs ih =>
    rw [List.all_cons, ← ih, digits?, digits?, List.mapM_cons, isDecimalDigit]
    cases digitValue? c with
    | none => rfl
    | some d => cases cs.mapM digitValue? <;> rfl

lemma isDecimal_iff {cs : List Char} : isDecimal cs = true ↔ ∃ ds, Digits False cs ds := by
  have hempty : (!cs.isEmpty) = true ↔ cs ≠ [] := by simp
  rw [isDecimal, Bool.and_eq_true, hempty, ← isSome_digits?, Option.isSome_iff_exists,
    ← exists_and_left]
  exact exists_congr fun ds => digits?_eq_some_iff

/-- **Behind the test both readers agree.** -/
theorem readPlain_eq_readTested (cs : List Char) : readPlain cs = readTested cs := by
  rw [readTested]
  split
  · rename_i htest
    obtain ⟨ds, hds⟩ := isDecimal_iff.1 htest
    have hplain : IsNumeral isBlank False cs (splitSign (trim cs)).1 ds :=
      (isNumeral_iff isMarginal_isBlank).2 ⟨rfl, hds⟩
    -- the trimmed text is a numeral for the other reader, too, without margins
    obtain ⟨sign, hsplit, hsign⟩ := sign_splitSign (trim cs)
    have hgrouped : IsNumeral isMargin True (trim cs) (splitSign (trim cs)).1 ds := by
      refine ⟨sign, _, ?_, hsign, hds.mono False.elim⟩
      rw [← hsplit]
      exact padded_self isMargin (trim cs)
    rw [reads_readPlain.numeral hplain, reads_readGrouped.numeral hgrouped]
  · rename_i htest
    refine reads_readPlain.other fun negative ds hds => htest ?_
    exact isDecimal_iff.2 ⟨ds, ((isNumeral_iff isMarginal_isBlank).1 hds).2⟩

/-! ## ASCII digits -/

lemma digitValue?_of_isDigit {c : Char} (h : c.isDigit = true) :
    digitValue? c = some (asciiDigitValue c) := by
  have hascii : c.toNat < 128 := by
    simp only [Char.isDigit, Bool.and_eq_true, decide_eq_true_eq] at h
    have h9 : c.toNat ≤ 57 := h.2
    omega
  rw [digitValue?, if_pos hascii, if_pos h, asciiDigitValue]

lemma digits_of_isDigit {grouped : Prop} {cs : List Char} (hne : cs ≠ [])
    (h : ∀ c ∈ cs, c.isDigit = true) : Digits grouped cs (cs.map asciiDigitValue) := by
  induction cs with
  | nil => exact absurd rfl hne
  | cons c cs ih =>
    obtain ⟨hc, hcs⟩ := List.forall_mem_cons.1 h
    cases cs with
    | nil => exact .last (digitValue?_of_isDigit hc)
    | cons d cs => exact .more (digitValue?_of_isDigit hc) (ih (List.cons_ne_nil _ _) hcs)

/-- A sign and ASCII digits are a numeral of either kind. -/
lemma isNumeral_of_isDigit {margin : Char → Bool} {grouped : Prop} {sign cs : List Char}
    {negative : Bool} (hs : Sign sign negative) (hne : cs ≠ []) (h : ∀ c ∈ cs, c.isDigit = true) :
    IsNumeral margin grouped (sign ++ cs) negative (cs.map asciiDigitValue) :=
  ⟨sign, cs, padded_self margin _, hs, digits_of_isDigit hne h⟩

/-- An integer is written as a sign and the digits of its size. -/
lemma exists_sign_toString (n : Int) :
    ∃ sign negative, Sign sign negative ∧
      (toString n).toList = sign ++ Nat.toDigits 10 n.natAbs ∧
      n = if negative then -(n.natAbs : Int) else n.natAbs := by
  rw [toList_toString]
  split
  · refine ⟨[], false, .none, rfl, ?_⟩
    rw [if_neg Bool.false_ne_true]
    omega
  · refine ⟨['-'], true, .minus, rfl, ?_⟩
    rw [if_pos rfl]
    omega

/-- **What is written is read again.** -/
theorem readPlain_toString {n : Int} (hn : n.natAbs < writingLimit) :
    readPlain (toString n).toList = .ok n := by
  obtain ⟨sign, negative, hsign, htext, hvalue⟩ := exists_sign_toString n
  have hdigit : ∀ c ∈ Nat.toDigits 10 n.natAbs, c.isDigit = true :=
    fun c hc => Nat.isDigit_of_mem_toDigits (by decide) (by decide) hc
  have hnumeral : IsNumeral isBlank False (sign ++ Nat.toDigits 10 n.natAbs) negative _ :=
    isNumeral_of_isDigit hsign Nat.toDigits_ne_nil hdigit
  have hread :
      ofSignAndDigits negative ((Nat.toDigits 10 n.natAbs).map asciiDigitValue) = .ok n := by
    rw [ofSignAndDigits, List.length_map, if_neg (Nat.not_lt.2 (length_toDigits_le hn)),
      ofDigits_toDigits, ← hvalue]
  rw [htext, reads_readPlain.numeral hnumeral, hread]
  rfl

end Numeral

/-! ## Integer literals -/

namespace Token

/-- If this is an integer literal, then its text is read as its value. -/
def Lexeme.Rereads (l : Lexeme) : Prop :=
  ∀ p, l.found = .ok (.intLiteral, p) → ∃ n, p = .int n ∧ Numeral.readPlain l.text = .ok n

lemma rereads_of_kind {l : Lexeme} (h : ∀ k p, l.found = .ok (k, p) → k ≠ .intLiteral) :
    l.Rereads :=
  fun p hp => absurd rfl (h _ p hp)

lemma rereads_readNumber (negative : Bool) {d : Char} (hd : d.isDigit = true) (cs : List Char) :
    (readNumber negative (d :: cs)).Rereads := by
  intro p hp
  have hsign : Numeral.Sign (if negative then ['-'] else []) negative := by
    cases negative
    · exact .none
    · exact .minus
  have hne : (d :: cs).takeWhile Char.isDigit ≠ [] := by
    rw [List.takeWhile_cons_of_pos hd]
    exact List.cons_ne_nil _ _
  have hnumeral : Numeral.IsNumeral Text.isBlank False (readNumber negative (d :: cs)).text
      negative _ :=
    Numeral.isNumeral_of_isDigit hsign hne fun c hc => List.mem_takeWhile_imp hc
  rw [Numeral.reads_readPlain.numeral hnumeral]
  simp only [readNumber] at hp
  split at hp
  · rename_i n hn
    cases hp
    exact ⟨n, rfl, by rw [hn]; rfl⟩
  · cases hp

lemma rereads_readString (q : Char) (cs : List Char) : (readString q cs).Rereads := by
  refine rereads_of_kind fun k p h => ?_
  simp only [readString] at h
  split at h <;> cases h
  decide

lemma rereads_readWord (cs : List Char) : (readWord cs).Rereads := by
  refine rereads_of_kind fun k p h => ?_
  have hkind := kind_ofWord (String.ofList (cs.takeWhile Text.isWord)) none
  rw [ofWord, Except.ok.inj h] at hkind
  exact ne_of_mem_of_not_mem hkind (by decide)

lemma rereads_symbol {kind : Kind} (h : kind ≠ .intLiteral) (text rest : List Char) :
    (symbol kind text rest).Rereads := by
  refine rereads_of_kind ?_
  rintro k p ⟨⟩
  exact h

lemma rereads_readSingle (c : Char) (cs : List Char) : (readSingle c cs).Rereads := by
  unfold readSingle
  split
  · rename_i kind hkind
    refine rereads_symbol ?_ _ _
    unfold symbolKind? at hkind
    split at hkind <;> cases hkind <;> decide
  · exact rereads_of_kind nofun

lemma rereads_readSymbol (before : Option Kind) (c : Char) (cs : List Char) :
    (readSymbol before c cs).Rereads := by
  unfold readSymbol
  split
  · exact rereads_symbol (by decide) _ _
  · exact rereads_symbol (by decide) _ _
  · exact rereads_symbol (by decide) _ _
  · exact rereads_symbol (by decide) _ _
  · split
    · rename_i h
      exact rereads_readNumber true (Bool.and_eq_true_iff.1 h).1 _
    · exact rereads_readSingle _ _
  · exact rereads_readSingle _ _

/-- An integer literal is read as its value, whatever stands around it. -/
lemma rereads_readLexeme (before : Option Kind) (c : Char) (cs : List Char) :
    (readLexeme before c cs).Rereads := by
  unfold readLexeme
  split
  · exact rereads_readString c cs
  · split
    · rename_i hd
      exact rereads_readNumber false hd cs
    · split
      · exact rereads_readWord (c :: cs)
      · exact rereads_readSymbol before c cs

/-- So is the lexeme of an integer literal that the scanner comes to. -/
theorem Scanner.readPlain_lexeme {s : Scanner} {t : Token} (h : s.next.1 = .token t)
    (ht : t.kind = .intLiteral) :
    ∃ n, t.payload = .int n ∧ Numeral.readPlain t.lexeme.toList = .ok n := by
  obtain ⟨hc, hr | ⟨c, cs, k, p, hr, hf⟩⟩ := next_eq_token h
  · rw [next_of_end hc hr] at h
    cases h
    cases ht
  · rw [next_of_ok hc hr hf] at h
    cases h
    obtain rfl : k = .intLiteral := ht
    rw [String.toList_ofList]
    exact rereads_readLexeme s.before c cs p hf

end Token

/-! ## The built-in functions -/

namespace Registry

/-- What a built-in function of the language answers to an argument, where results of a type are
promised. -/
def answerOf {d : Nat} (m : Machine d) (name : String) (arg : Value) (promised : ValueType) :
    Except Failure Value :=
  ((standard.call name [arg] promised : Eval d Value) m).1

section

variable {d : Nat} (m : Machine d)

/-- The answer to an argument that the function accepts is what the function makes of it. -/
lemma answerOf_eq {name : String} {arg : Value} {b : Builtin} (hfind : standard.find? name = some b)
    (haccepted : b.rejection? [arg] = none) :
    answerOf m name arg b.returnType = (b.run [arg]).result := by
  rw [answerOf, call, hfind]
  dsimp only
  rw [haccepted]
  cases hresult : (b.run [arg]).result with
  | error f => simp
  | ok v => simp [type_standard hfind hresult]

lemma answerOf_parseInt (s : String) : answerOf m "parse_int" (.string s) .int =
    (Builtin.replyInt s (Numeral.readPlain s.toList)).result :=
  answerOf_eq m (b := .parseInt) rfl rfl

lemma answerOf_toText (n : Int) : answerOf m "to_string" (.int n) .string =
    (Builtin.replyText (Numeral.write n)).result :=
  answerOf_eq m (b := .toText) rfl rfl

/-- **Integers and their texts agree.**  `parse_int` gives the value of a text that is a sign, if
there is one, and decimal digits of any script with white space around, unless there are too many of
them: that is a failure of its own, and any other text is an invalid argument.  It reads each
integer from the text that `to_string` makes of it, and each integer literal, as far as it was
scanned, from its lexeme. -/
theorem integer_texts_agree :
    (∀ s : String,
      (∀ v, answerOf m "parse_int" (.string s) .int = .ok v ↔
        ∃ negative ds, Numeral.IsNumeral Text.isBlank False s.toList negative ds ∧
          ds.length ≤ Numeral.maxDigits ∧ v = .int (Numeral.signedValue negative ds)) ∧
      (answerOf m "parse_int" (.string s) .int = .error (.located
          (.invalidArgument "parse_int" (Text.quoted s ++ " is not an integer")) none) ↔
        ∀ negative ds, ¬ Numeral.IsNumeral Text.isBlank False s.toList negative ds) ∧
      (∀ reason, answerOf m "parse_int" (.string s) .int = .error (.tooLong reason) ↔
        ∃ negative ds, Numeral.IsNumeral Text.isBlank False s.toList negative ds ∧
          Numeral.maxDigits < ds.length ∧ reason = .reading ds.length) ∧
      Numeral.readPlain s.toList = Numeral.readTested s.toList) ∧
    (∀ n : Int, n.natAbs < Numeral.writingLimit →
      ∃ s, answerOf m "to_string" (.int n) .string = .ok (.string s) ∧
        answerOf m "parse_int" (.string s) .int = .ok (.int n)) ∧
    (∀ (source : Source) (k : ℕ) (t : Token), source.event k = .token t → t.kind = .intLiteral →
      ∃ n, t.payload = .int n ∧
        answerOf m "parse_int" (.string t.lexeme) .int = .ok (.int n)) := by
  refine ⟨fun s => ?_, fun n hn => ?_, fun source k t ht hkind => ?_⟩
  · rw [answerOf_parseInt]
    have hreads := Numeral.reads_readPlain
    refine ⟨fun v => ?_, ?_, fun reason => ?_, Numeral.readPlain_eq_readTested s.toList⟩
    · have hvalue : (Builtin.replyInt s (Numeral.readPlain s.toList)).result = .ok v ↔
          ∃ n, Numeral.readPlain s.toList = .ok n ∧ v = .int n := by
        rcases Numeral.readPlain s.toList with (_ | reason) | n <;>
          simp [Builtin.replyInt, eq_comm]
      rw [hvalue]
      constructor
      · rintro ⟨n, hn, rfl⟩
        obtain ⟨negative, ds, hds, hlen, rfl⟩ := hreads.eq_ok_iff.1 hn
        exact ⟨negative, ds, hds, hlen, rfl⟩
      · rintro ⟨negative, ds, hds, hlen, rfl⟩
        exact ⟨_, hreads.eq_ok_iff.2 ⟨negative, ds, hds, hlen, rfl⟩, rfl⟩
    · rw [← hreads.eq_malformed_iff]
      rcases Numeral.readPlain s.toList with (_ | reason) | n <;>
        simp [Builtin.replyInt, Failure.located]
    · rw [← hreads.eq_tooLong_iff]
      rcases Numeral.readPlain s.toList with (_ | reason) | n <;>
        simp [Builtin.replyInt, Failure.located]
  · refine ⟨toString n, ?_, ?_⟩
    · rw [answerOf_toText, Numeral.write_eq_ok hn]
      rfl
    · rw [answerOf_parseInt, Numeral.readPlain_toString hn]
      rfl
  · obtain ⟨n, hpayload, hread⟩ := Scanner.readPlain_lexeme ht hkind
    refine ⟨n, hpayload, ?_⟩
    rw [answerOf_parseInt, hread]
    rfl

end

/-- An em space before the minus sign, the digits of another script and a leading zero do not matter
to `parse_int`; nor does what stands in a text before and behind a literal. -/
theorem integer_texts_agree_forty_two :
    let m : Machine 0 := .atTop .empty
    answerOf m "parse_int" (.string "\u2003-٠٤٢ ") .int = .ok (.int (-42)) ∧
      (∃ s, answerOf m "to_string" (.int (-42)) .string = .ok (.string s) ∧
        answerOf m "parse_int" (.string s) .int = .ok (.int (-42))) ∧
      ∃ t, (Source.mk "/**/-042;" none).event 0 = .token t ∧ t.kind = .intLiteral ∧
        ∃ n, t.payload = .int n ∧
          answerOf m "parse_int" (.string t.lexeme) .int = .ok (.int n) := by
  intro m
  obtain ⟨hparse, hwrite, hscan⟩ := integer_texts_agree m
  have hnumeral : Numeral.IsNumeral Text.isBlank False "\u2003-٠٤٢ ".toList true [0, 4, 2] := by
    refine ⟨['-'], ['٠', '٤', '٢'], ⟨['\u2003'], [' '], by decide, ?_, ?_⟩, .minus, ?_⟩
    · exact List.forall_mem_singleton.2 (by decide)
    · exact List.forall_mem_singleton.2 (by decide)
    exact .more (by decide) (.more (by decide) (.last (by decide)))
  let t : Token := ⟨.intLiteral, .int (-42), "-042", some ⟨⟨1, 5, 4⟩, ⟨1, 9, 8⟩, none⟩⟩
  have ht : (Source.mk "/**/-042;" none).event 0 = .token t := by decide +kernel
  refine ⟨?_, hwrite (-42) (by decide +kernel), t, ht, rfl, hscan _ 0 t ht rfl⟩
  exact ((hparse _).1 _).2 ⟨true, [0, 4, 2], hnumeral, by decide, rfl⟩

end Registry

end Scriptlet
