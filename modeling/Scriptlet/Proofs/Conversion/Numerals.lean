import Mathlib.Data.List.DropRight
import Mathlib.Data.Nat.Digits.Defs
import Mathlib.Tactic.Lemma
import Scriptlet.Numeral

/-!
# What texts are numerals

A numeral is an optional sign and digits of any script, with white space around it.  There are two
kinds of them, which differ in what counts as white space and in whether underscores may stand
between digits, and for each kind there is a reader.  A reader gives the value of the numerals of
its kind that are not too long, and it tells those that are too long from all other texts
(`Reads.eq_ok_iff`, `Reads.eq_tooLong_iff`, `Reads.eq_malformed_iff`).
-/

namespace Scriptlet

namespace Text

/-! ## White space around a text -/

/-- The text is `inner` with characters of a class before it and behind it. -/
def Padded (p : Char → Bool) (inner cs : List Char) : Prop :=
  ∃ left right, cs = left ++ (inner ++ right) ∧ (∀ c ∈ left, p c = true) ∧
    ∀ c ∈ right, p c = true

/-- The text neither starts nor ends with a character of a class. -/
structure Trimmed (p : Char → Bool) (cs : List Char) : Prop where
  /-- It does not start with one. -/
  head : ∀ c ∈ cs.head?, p c = false
  /-- It does not end with one. -/
  last : ∀ c ∈ cs.getLast?, p c = false

section

variable {p : Char → Bool} {inner cs : List Char}

lemma trimBoth_eq (p : Char → Bool) (cs : List Char) :
    trimBoth p cs = (cs.dropWhile p).rdropWhile p := rfl

/-- Trimming takes nothing but characters of the class away. -/
lemma padded_trimBoth (p : Char → Bool) (cs : List Char) : Padded p (trimBoth p cs) cs := by
  refine ⟨cs.takeWhile p, (cs.dropWhile p).rtakeWhile p, ?_, ?_, ?_⟩
  · rw [trimBoth_eq, List.rdropWhile_append_rtakeWhile, List.takeWhile_append_dropWhile]
  · exact fun c hc => List.mem_takeWhile_imp hc
  · exact fun c hc => List.mem_rtakeWhile_imp hc

lemma dropWhile_of_head (h : ∀ c ∈ cs.head?, p c = false) : cs.dropWhile p = cs := by
  cases cs with
  | nil => rfl
  | cons c cs => rw [List.dropWhile_cons_of_neg (by simp [h c rfl])]

lemma rdropWhile_of_last (h : ∀ c ∈ cs.getLast?, p c = false) : cs.rdropWhile p = cs := by
  rw [List.rdropWhile, dropWhile_of_head (by simpa using h), List.reverse_reverse]

lemma rdropWhile_append_of_pos {right : List Char} (h : ∀ c ∈ right, p c = true)
    (cs : List Char) : (cs ++ right).rdropWhile p = cs.rdropWhile p := by
  rw [List.rdropWhile, List.reverse_append, List.dropWhile_append_of_pos (by simpa using h)]
  rfl

/-- What stands in the padding is what trimming leaves. -/
lemma Padded.trimBoth_eq (h : Padded p inner cs) (hi : Trimmed p inner) :
    trimBoth p cs = inner := by
  obtain ⟨left, right, rfl, hleft, hright⟩ := h
  rw [Text.trimBoth_eq, List.dropWhile_append_of_pos hleft]
  cases inner with
  | nil =>
    -- nothing but padding is there
    rw [List.nil_append, List.dropWhile_eq_nil_iff.2 hright]
    rfl
  | cons c inner =>
    have hhead : ∀ d ∈ (c :: inner ++ right).head?, p d = false := hi.head
    rw [dropWhile_of_head hhead, rdropWhile_append_of_pos hright, rdropWhile_of_last hi.last]

lemma padded_self (p : Char → Bool) (cs : List Char) : Padded p cs cs :=
  ⟨[], [], by simp, List.forall_mem_nil _, List.forall_mem_nil _⟩

end

/-! ## Digits -/

/-- White space is no digit. -/
lemma digitValue?_of_isBlank {c : Char} (h : isBlank c = true) : digitValue? c = none := by
  simp only [isBlank, isMargin, isInformationSeparator, Bool.or_eq_true, Bool.and_eq_true,
    decide_eq_true_eq, beq_iff_eq] at h
  by_cases hascii : c.toNat < 128
  · have hdigit : ¬ c.isDigit = true := by
      intro hd
      simp only [Char.isDigit, ge_iff_le, Bool.and_eq_true, decide_eq_true_eq] at hd
      have h0 : 48 ≤ c.toNat := hd.1
      have h9 : c.toNat ≤ 57 := hd.2
      omega
    rw [digitValue?, if_pos hascii, if_neg hdigit]
  · -- beyond ASCII there are seventeen of them
    have hnone : ∀ n ∈ [0x85, 0xa0, 0x1680, 0x2000, 0x2001, 0x2002, 0x2003, 0x2004, 0x2005, 0x2006,
        0x2007, 0x2008, 0x2009, 0x200a, 0x2028, 0x2029, 0x202f, 0x205f, 0x3000],
        digitRanges.firstOf? n = none := by decide
    have hmem : c.toNat ∈ [0x85, 0xa0, 0x1680, 0x2000, 0x2001, 0x2002, 0x2003, 0x2004, 0x2005,
        0x2006, 0x2007, 0x2008, 0x2009, 0x200a, 0x2028, 0x2029, 0x202f, 0x205f, 0x3000] := by
      simp only [List.mem_cons, List.not_mem_nil, or_false]
      omega
    rw [digitValue?, if_neg hascii, hnone _ hmem]
    rfl

lemma digitValue?_of_isMargin {c : Char} (h : isMargin c = true) : digitValue? c = none :=
  digitValue?_of_isBlank (by rw [isBlank, h, Bool.true_or])

end Text

namespace Numeral

open Text

/-! ## Numerals -/

/-- A sign, and whether it is a minus. -/
inductive Sign : List Char → Bool → Prop
  /-- No sign. -/
  | none : Sign [] false
  /-- `+` -/
  | plus : Sign ['+'] false
  /-- `-` -/
  | minus : Sign ['-'] true

/-- The text consists of digits of any script, one at least, that have the values `ds`.  Where
`grouped` holds, single underscores may stand between digits. -/
inductive Digits (grouped : Prop) : List Char → List Nat → Prop
  /-- A digit. -/
  | last {c : Char} {d : Nat} (hc : digitValue? c = some d) : Digits grouped [c] [d]
  /-- A digit, and more. -/
  | more {c : Char} {d : Nat} {cs : List Char} {ds : List Nat} (hc : digitValue? c = some d)
      (h : Digits grouped cs ds) : Digits grouped (c :: cs) (d :: ds)
  /-- A digit, and more behind an underscore. -/
  | group {c : Char} {d : Nat} {cs : List Char} {ds : List Nat} (hg : grouped)
      (hc : digitValue? c = some d) (h : Digits grouped cs ds) :
      Digits grouped (c :: '_' :: cs) (d :: ds)

/-- The text is a numeral: a sign, if there is one, and digits, in a margin. -/
def IsNumeral (margin : Char → Bool) (grouped : Prop) (cs : List Char) (negative : Bool)
    (ds : List Nat) : Prop :=
  ∃ sign digits, Padded margin (sign ++ digits) cs ∧ Sign sign negative ∧ Digits grouped digits ds

/-- The number that a sign and digits denote, the most significant digit first. -/
def signedValue (negative : Bool) (ds : List Nat) : Int :=
  if negative then -(Nat.ofDigits 10 ds.reverse : Nat) else (Nat.ofDigits 10 ds.reverse : Nat)

/-- A class of characters that can be a margin of numerals: it has neither signs nor digits. -/
structure IsMarginal (margin : Char → Bool) : Prop where
  /-- Digits are not in the class. -/
  digit : ∀ {c d}, digitValue? c = some d → margin c = false
  /-- Nor are signs. -/
  sign : margin '+' = false ∧ margin '-' = false

lemma isMarginal_isBlank : IsMarginal isBlank := by
  refine ⟨fun {c d} hc => Bool.eq_false_iff.2 fun hblank => ?_, by decide, by decide⟩
  cases (digitValue?_of_isBlank hblank).symm.trans hc

lemma isMarginal_isMargin : IsMarginal isMargin := by
  refine ⟨fun {c d} hc => Bool.eq_false_iff.2 fun hmargin => ?_, by decide, by decide⟩
  cases (digitValue?_of_isMargin hmargin).symm.trans hc

section Digits

variable {grouped : Prop} {cs : List Char} {ds : List Nat}

lemma Digits.ne_nil (h : Digits grouped cs ds) : cs ≠ [] := by
  cases h <;> exact List.cons_ne_nil _ _

lemma Digits.head? (h : Digits grouped cs ds) : ∀ c ∈ cs.head?, ∃ d, digitValue? c = some d := by
  rintro c hc
  cases h <;> cases hc <;> exact ⟨_, ‹_›⟩

lemma Digits.getLast? (h : Digits grouped cs ds) :
    ∀ c ∈ cs.getLast?, ∃ d, digitValue? c = some d := by
  induction h with
  | last hc =>
    rintro c ⟨⟩
    exact ⟨_, hc⟩
  | more _ h ih | group _ _ h ih =>
    obtain ⟨e, es, rfl⟩ := List.exists_cons_of_ne_nil h.ne_nil
    simpa using ih

lemma Digits.mono {grouped' : Prop} (h : Digits grouped cs ds) (hg : grouped → grouped') :
    Digits grouped' cs ds := by
  induction h with
  | last hc => exact .last hc
  | more hc _ ih => exact .more hc ih
  | group hyes hc _ ih => exact .group (hg hyes) hc ih

/-- Digits start with no sign, so a sign before them is told from them. -/
lemma Digits.splitSign {sign : List Char} {negative : Bool} (h : Digits grouped cs ds)
    (hs : Sign sign negative) : splitSign (sign ++ cs) = (negative, cs) := by
  cases hs with
  | plus | minus => rfl
  | none =>
    rw [List.nil_append, Numeral.splitSign.eq_def]
    split
    · obtain ⟨d, hd⟩ := h.head? '-' rfl
      cases hd
    · obtain ⟨d, hd⟩ := h.head? '+' rfl
      cases hd
    · rfl

lemma sign_splitSign (cs : List Char) :
    ∃ sign, cs = sign ++ (splitSign cs).2 ∧ Sign sign (splitSign cs).1 := by
  unfold Numeral.splitSign
  split
  · exact ⟨['-'], rfl, .minus⟩
  · exact ⟨['+'], rfl, .plus⟩
  · exact ⟨[], rfl, .none⟩

/-- Between its margins a numeral has none of their characters. -/
lemma Digits.trimmed {margin : Char → Bool} (hm : IsMarginal margin) {sign : List Char}
    {negative : Bool} (h : Digits grouped cs ds) (hs : Sign sign negative) :
    Trimmed margin (sign ++ cs) := by
  have hlast : ∀ c ∈ cs.getLast?, margin c = false := by
    intro c hc
    obtain ⟨d, hd⟩ := h.getLast? c hc
    exact hm.digit hd
  obtain ⟨c, ds, rfl⟩ := List.exists_cons_of_ne_nil h.ne_nil
  cases hs with
  | none =>
    refine ⟨fun e he => ?_, hlast⟩
    obtain ⟨d, hd⟩ := h.head? e he
    exact hm.digit hd
  | plus => exact ⟨by rintro _ ⟨⟩; exact hm.sign.1, by simpa using hlast⟩
  | minus => exact ⟨by rintro _ ⟨⟩; exact hm.sign.2, by simpa using hlast⟩

/-- A numeral is what is left of it without its margins and its sign. -/
lemma isNumeral_iff {margin : Char → Bool} (hm : IsMarginal margin) {negative : Bool} :
    IsNumeral margin grouped cs negative ds ↔
      (splitSign (trimBoth margin cs)).1 = negative ∧
        Digits grouped (splitSign (trimBoth margin cs)).2 ds := by
  constructor
  · rintro ⟨sign, digits, hpadded, hsign, hdigits⟩
    rw [hpadded.trimBoth_eq (hdigits.trimmed hm hsign), hdigits.splitSign hsign]
    exact ⟨rfl, hdigits⟩
  · rintro ⟨rfl, hdigits⟩
    obtain ⟨sign, hsplit, hsign⟩ := sign_splitSign (trimBoth margin cs)
    refine ⟨sign, _, ?_, hsign, hdigits⟩
    rw [← hsplit]
    exact padded_trimBoth margin cs

/-! ## Reading digits -/

lemma digits?_eq_some_iff : (cs ≠ [] ∧ digits? cs = some ds) ↔ Digits False cs ds := by
  induction cs generalizing ds with
  | nil =>
    refine ⟨fun h => absurd rfl h.1, fun h => absurd rfl h.ne_nil⟩
  | cons c cs ih =>
    have hcons : digits? (c :: cs) = (digitValue? c).bind fun d => (digits? cs).map (d :: ·) := by
      rw [digits?, List.mapM_cons]
      cases digitValue? c with
      | none => rfl
      | some d => cases hds : cs.mapM digitValue? <;> simp [digits?, hds]
    constructor
    · rintro ⟨-, h⟩
      rw [hcons] at h
      obtain ⟨d, hc, hmap⟩ := Option.bind_eq_some_iff.1 h
      obtain ⟨es, hes, rfl⟩ := Option.map_eq_some_iff.1 hmap
      cases cs with
      | nil =>
        cases hes
        exact .last hc
      | cons e cs => exact .more hc (ih.1 ⟨List.cons_ne_nil _ _, hes⟩)
    · intro h
      refine ⟨List.cons_ne_nil _ _, ?_⟩
      rw [hcons]
      cases h with
      | last hc =>
        rw [hc]
        rfl
      | more hc h =>
        rw [hc, (ih.2 h).2]
        rfl
      | group hg => exact hg.elim

/-- A digit is read with the digits behind it, unless an underscore is behind it. -/
lemma groupedDigits?_cons {c : Char} (hne : cs ≠ []) (hcs : ∀ es, cs ≠ '_' :: es) :
    groupedDigits? (c :: cs) = (digitValue? c).bind fun d => (groupedDigits? cs).map (d :: ·) := by
  rw [groupedDigits?]
  · cases digitValue? c <;> cases groupedDigits? cs <;> rfl
  · exact hne
  · exact hcs

lemma groupedDigits?_eq_some_iff : groupedDigits? cs = some ds ↔ Digits True cs ds := by
  constructor
  · intro h
    fun_induction groupedDigits? cs generalizing ds with
    | case1 => cases h
    | case2 c =>
      obtain ⟨d, hc, rfl⟩ := Option.map_eq_some_iff.1 h
      exact .last hc
    | case3 c cs ih =>
      obtain ⟨d, hc, h⟩ := Option.bind_eq_some_iff.1 h
      obtain ⟨es, hes, h⟩ := Option.bind_eq_some_iff.1 h
      cases h
      exact .group trivial hc (ih hes)
    | case4 c cs _ _ ih =>
      obtain ⟨d, hc, h⟩ := Option.bind_eq_some_iff.1 h
      obtain ⟨es, hes, h⟩ := Option.bind_eq_some_iff.1 h
      cases h
      exact .more hc (ih hes)
  · intro h
    induction h with
    | last hc => rw [groupedDigits?, hc]; rfl
    | @more c d cs ds hc h ih =>
      have hunderscore : ∀ es, cs ≠ '_' :: es := by
        rintro es rfl
        obtain ⟨e, he⟩ := h.head? '_' rfl
        cases he
      rw [groupedDigits?_cons h.ne_nil hunderscore, hc, ih]
      rfl
    | group _ hc h ih =>
      rw [groupedDigits?, hc, ih]
      rfl

end Digits

/-! ## Texts of integers -/

/-- An integer is written as a minus sign, if it is negative, and the digits of its size. -/
lemma toList_toString (n : Int) :
    (toString n).toList = (if 0 ≤ n then [] else ['-']) ++ Nat.toDigits 10 n.natAbs := by
  rw [Int.toString_eq_repr, Int.repr_eq_if]
  split
  · rw [Nat.toList_repr, List.nil_append]
    congr 1
    omega
  · rw [String.toList_append, Nat.toList_repr]
    congr 2
    omega

/-! ## Reading numerals -/

/-- The digits of a numeral denote what they are read as. -/
lemma ofDigits_eq (ds : List Nat) : ofDigits ds = Nat.ofDigits 10 ds.reverse := by
  induction ds using List.reverseRecOn with
  | nil => rfl
  | append_singleton ds d ih =>
    rw [ofDigits_concat, ih, List.reverse_append, List.reverse_singleton, List.singleton_append,
      Nat.ofDigits_cons, Nat.add_comm]

lemma ofSignAndDigits_of_le {negative : Bool} {ds : List Nat} (h : ds.length ≤ maxDigits) :
    ofSignAndDigits negative ds = .ok (signedValue negative ds) := by
  rw [ofSignAndDigits, if_neg (Nat.not_lt.2 h), ofDigits_eq, signedValue]

lemma ofSignAndDigits_of_lt {negative : Bool} {ds : List Nat} (h : maxDigits < ds.length) :
    ofSignAndDigits negative ds = .error (.reading ds.length) := if_pos h

/-- The reader gives what the numerals of a kind denote, and takes no other text for a numeral. -/
structure Reads (read : List Char → Except Unreadable Int) (margin : Char → Bool)
    (grouped : Prop) : Prop where
  /-- A numeral is read, unless it is too long. -/
  numeral : ∀ {cs negative ds}, IsNumeral margin grouped cs negative ds →
    read cs = (ofSignAndDigits negative ds).mapError .tooLong
  /-- Any other text is not. -/
  other : ∀ {cs}, (∀ negative ds, ¬ IsNumeral margin grouped cs negative ds) →
    read cs = .error .malformed

lemma reads_readPlain : Reads readPlain isBlank False := by
  constructor
  · intro cs negative ds h
    obtain ⟨rfl, hdigits⟩ := (isNumeral_iff isMarginal_isBlank).1 h
    obtain ⟨hne, hds⟩ := digits?_eq_some_iff.2 hdigits
    obtain ⟨c, rest, hrest⟩ := List.exists_cons_of_ne_nil hne
    simp only [readPlain, trim, hds]
    rw [hrest]
  · intro cs h
    rw [readPlain, trim]
    dsimp only
    split
    · rename_i c rest ds hrest hds
      refine absurd ((isNumeral_iff isMarginal_isBlank).2 ⟨rfl, digits?_eq_some_iff.1 ⟨?_, hds⟩⟩)
        (h _ ds)
      rw [hrest]
      exact List.cons_ne_nil _ _
    · rfl

lemma reads_readGrouped : Reads readGrouped isMargin True := by
  constructor
  · intro cs negative ds h
    obtain ⟨rfl, hdigits⟩ := (isNumeral_iff isMarginal_isMargin).1 h
    rw [readGrouped]
    simp only [groupedDigits?_eq_some_iff.2 hdigits]
  · intro cs h
    rw [readGrouped]
    dsimp only
    split
    · rfl
    · rename_i ds hds
      exact absurd ((isNumeral_iff isMarginal_isMargin).2 ⟨rfl, groupedDigits?_eq_some_iff.1 hds⟩)
        (h _ ds)

section Reads

variable {read : List Char → Except Unreadable Int} {margin : Char → Bool} {grouped : Prop}
  {cs : List Char}

/-- The three outcomes of reading, with the texts that they are the outcomes of. -/
lemma Reads.cases (h : Reads read margin grouped) (cs : List Char) :
    (∃ negative ds, IsNumeral margin grouped cs negative ds ∧ ds.length ≤ maxDigits ∧
        read cs = .ok (signedValue negative ds)) ∨
      (∃ negative ds, IsNumeral margin grouped cs negative ds ∧ maxDigits < ds.length ∧
        read cs = .error (.tooLong (.reading ds.length))) ∨
      ((∀ negative ds, ¬ IsNumeral margin grouped cs negative ds) ∧
        read cs = .error .malformed) := by
  by_cases hnumeral : ∃ negative ds, IsNumeral margin grouped cs negative ds
  · obtain ⟨negative, ds, hds⟩ := hnumeral
    rcases Nat.lt_or_ge maxDigits ds.length with hlong | hshort
    · refine .inr (.inl ⟨negative, ds, hds, hlong, ?_⟩)
      rw [h.numeral hds, ofSignAndDigits_of_lt hlong]
      rfl
    · refine .inl ⟨negative, ds, hds, hshort, ?_⟩
      rw [h.numeral hds, ofSignAndDigits_of_le hshort]
      rfl
  · push Not at hnumeral
    exact .inr (.inr ⟨hnumeral, h.other hnumeral⟩)

/-- The numerals that are read are those that are not too long. -/
lemma Reads.eq_ok_iff (h : Reads read margin grouped) {n : Int} :
    read cs = .ok n ↔ ∃ negative ds, IsNumeral margin grouped cs negative ds ∧
      ds.length ≤ maxDigits ∧ n = signedValue negative ds := by
  constructor
  · intro hn
    obtain ⟨negative, ds, hds, hlen, hread⟩ | ⟨_, _, -, -, hread⟩ | ⟨-, hread⟩ := h.cases cs
    · exact ⟨negative, ds, hds, hlen, Except.ok.inj (hn.symm.trans hread)⟩
    · cases hn.symm.trans hread
    · cases hn.symm.trans hread
  · rintro ⟨negative, ds, hds, hlen, rfl⟩
    rw [h.numeral hds, ofSignAndDigits_of_le hlen]
    rfl

/-- Those that are too long are reported with the number of their digits. -/
lemma Reads.eq_tooLong_iff (h : Reads read margin grouped) {reason : TooLong} :
    read cs = .error (.tooLong reason) ↔ ∃ negative ds,
      IsNumeral margin grouped cs negative ds ∧ maxDigits < ds.length ∧
        reason = .reading ds.length := by
  constructor
  · intro hlong
    obtain ⟨_, _, -, -, hread⟩ | ⟨negative, ds, hds, hlen, hread⟩ | ⟨-, hread⟩ := h.cases cs
    · cases hlong.symm.trans hread
    · cases hlong.symm.trans hread
      exact ⟨negative, ds, hds, hlen, rfl⟩
    · cases hlong.symm.trans hread
  · rintro ⟨negative, ds, hds, hlen, rfl⟩
    rw [h.numeral hds, ofSignAndDigits_of_lt hlen]
    rfl

/-- No other text is a numeral. -/
lemma Reads.eq_malformed_iff (h : Reads read margin grouped) :
    read cs = .error .malformed ↔ ∀ negative ds, ¬ IsNumeral margin grouped cs negative ds := by
  constructor
  · intro hbad
    obtain ⟨_, _, -, -, hread⟩ | ⟨_, _, -, -, hread⟩ | ⟨hnone, -⟩ := h.cases cs
    · cases hbad.symm.trans hread
    · cases hbad.symm.trans hread
    · exact hnone
  · exact h.other

end Reads

end Numeral

end Scriptlet
