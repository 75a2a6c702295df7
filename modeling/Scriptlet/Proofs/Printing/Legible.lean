import Scriptlet.Proofs.CommandLine.Listing
import Scriptlet.Proofs.Conversion.Numerals
import Scriptlet.Proofs.Printing.Layout

/-!
# Texts that can be told apart

The text of a token shows what the token carries, once its kind is known (`ShownAs.text_eq_iff`):
integers with different texts are different, and quoting maps no two texts to the same one
(`Text.quoted_inj`), although it writes some characters as others are written behind a backslash.

Both quoted texts and outlines are sequences of pieces of different lengths.  That the pieces are
told apart, whatever follows them (`Tells`), carries over to the sequences, if what ends a sequence
starts no piece (`flatMap_append_cons_iff`).
-/

namespace Scriptlet

/-! ## Pieces and what follows them -/

section Tells

variable {α β γ : Type} {code : α → List γ} {key : α → β}

/-- The pieces that are written for `a` and `b` show whether their keys are the same, and where they
end, whatever is written behind them. -/
def Tells (code : α → List γ) (key : α → β) (a b : α) : Prop :=
  ∀ r r', code a ++ r = code b ++ r' ↔ key a = key b ∧ r = r'

lemma Tells.symm {a b : α} (h : Tells code key a b) : Tells code key b a := by
  intro r r'
  rw [eq_comm, h r' r, eq_comm, eq_comm (a := r')]

/-- What is written for `a` starts, and not with `stop`. -/
def StartsOff (code : α → List γ) (stop : γ) (a : α) : Prop :=
  ∃ x xs, code a = x :: xs ∧ x ≠ stop

variable {as bs : List α} {stop : γ}

/-- A sequence of pieces shows the keys and where it ends. -/
lemma flatMap_append_cons_iff (h : ∀ a ∈ as, ∀ b ∈ bs, Tells code key a b)
    (has : ∀ a ∈ as, StartsOff code stop a) (hbs : ∀ b ∈ bs, StartsOff code stop b)
    (r r' : List γ) :
    as.flatMap code ++ stop :: r = bs.flatMap code ++ stop :: r' ↔
      as.map key = bs.map key ∧ r = r' := by
  induction as generalizing bs with
  | nil =>
    cases bs with
    | nil => simp
    | cons b bs =>
      obtain ⟨x, xs, hx, hne⟩ := hbs b List.mem_cons_self
      simp [hx, hne.symm]
  | cons a as ih =>
    cases bs with
    | nil =>
      obtain ⟨x, xs, hx, hne⟩ := has a List.mem_cons_self
      simp [hx, hne]
    | cons b bs =>
      have htells := h a List.mem_cons_self b List.mem_cons_self
      have ih' := @ih bs
        (fun a ha b hb => h a (List.mem_cons_of_mem _ ha) b (List.mem_cons_of_mem _ hb))
        (fun a ha => has a (List.mem_cons_of_mem _ ha))
        (fun b hb => hbs b (List.mem_cons_of_mem _ hb))
      rw [List.flatMap_cons, List.flatMap_cons, List.append_assoc, List.append_assoc, htells, ih',
        List.map_cons, List.map_cons, List.cons.injEq, and_assoc]

/-- A stretch without `stop` shows where it ends. -/
lemma append_cons_iff {xs ys : List γ} (hxs : stop ∉ xs) (hys : stop ∉ ys) (r r' : List γ) :
    xs ++ stop :: r = ys ++ stop :: r' ↔ xs = ys ∧ r = r' := by
  have hoff {zs : List γ} (hzs : stop ∉ zs) : ∀ z ∈ zs, StartsOff (fun x : γ => [x]) stop z :=
    fun z hz => ⟨z, [], rfl, fun heq => hzs (heq ▸ hz)⟩
  have htells : ∀ x ∈ xs, ∀ y ∈ ys, Tells (fun x : γ => [x]) id x y := by
    intro x _ y _ r r'
    simp
  simpa using flatMap_append_cons_iff htells (hoff hxs) (hoff hys) r r'

end Tells

/-! ## Lines -/

/-- The text is a single line that is not empty. -/
structure Text.IsLine (s : String) : Prop where
  /-- It is a single line. -/
  single : '\n' ∉ s.toList
  /-- It is not empty. -/
  ne_empty : s ≠ ""

instance (s : String) : Decidable (Text.IsLine s) :=
  decidable_of_iff ('\n' ∉ s.toList ∧ s ≠ "") ⟨fun h => ⟨h.1, h.2⟩, fun h => ⟨h.single, h.ne_empty⟩⟩

/-- A text shows what its lines are, if none is empty. -/
lemma intercalate_newline_inj {ss ts : List String} (hss : ∀ s ∈ ss, Text.IsLine s)
    (hts : ∀ t ∈ ts, Text.IsLine t) : "\n".intercalate ss = "\n".intercalate ts ↔ ss = ts := by
  have hsplit {us : List String} (hus : ∀ u ∈ us, Text.IsLine u) (hne : us ≠ []) :
      ("\n".intercalate us).toList.splitOn '\n' = us.map String.toList := by
    rw [String.toList_intercalate]
    refine List.splitOn_intercalate '\n' (fun l hl => ?_) (by simpa using hne)
    obtain ⟨u, hu, rfl⟩ := List.mem_map.1 hl
    exact (hus u hu).single
  have hempty {us : List String} (hus : ∀ u ∈ us, Text.IsLine u)
      (h : "\n".intercalate us = "") : us = [] := by
    by_contra hne
    have hline := hsplit hus hne
    rw [h, String.toList_empty, List.splitOn_nil] at hline
    obtain ⟨u, us, rfl⟩ := List.exists_cons_of_ne_nil hne
    refine (hus u List.mem_cons_self).ne_empty (String.toList_eq_nil_iff.1 ?_)
    exact (List.cons.inj hline).1.symm
  refine ⟨fun h => ?_, fun h => by rw [h]⟩
  by_cases hnil : ss = []
  · subst hnil
    exact (hempty hts h.symm).symm
  · have hnil' : ts ≠ [] := by
      rintro rfl
      exact hnil (hempty hss h)
    have hlines := hsplit hss hnil
    rw [h, hsplit hts hnil'] at hlines
    exact (List.map_inj_right fun _ _ => String.toList_inj.1).1 hlines.symm

/-! ## Integers -/

lemma toDigits_inj {m n : Nat} (h : Nat.toDigits 10 m = Nat.toDigits 10 n) : m = n := by
  have hm := Token.ofDigits_toDigits m
  rwa [h, Token.ofDigits_toDigits, eq_comm] at hm

/-- The text of an integer has digits, and perhaps a minus sign. -/
lemma not_mem_intText {n : Int} {c : Char} (hminus : c ≠ '-') (hdigit : c.isDigit = false) :
    c ∉ (toString n).toList := by
  rw [Numeral.toList_toString, List.mem_append, not_or]
  constructor
  · split_ifs <;> simp [hminus]
  · intro hmem
    have := Nat.isDigit_of_mem_toDigits (b := 10) (by decide) (by decide) hmem
    cases hdigit.symm.trans this

/-- Integers are told by their texts. -/
lemma intText_inj {m n : Int} : toString m = toString n ↔ m = n := by
  refine ⟨fun h => ?_, fun h => by rw [h]⟩
  have hminus (k : Nat) (cs : List Char) : Nat.toDigits 10 k ≠ '-' :: cs := by
    intro hk
    have hdigit := Nat.isDigit_of_mem_toDigits (b := 10) (n := k) (c := '-') (by decide) (by decide)
      (hk ▸ List.mem_cons_self)
    exact absurd hdigit (by decide)
  have htext : (toString m).toList = (toString n).toList := by rw [h]
  rw [Numeral.toList_toString, Numeral.toList_toString] at htext
  split at htext <;> split at htext
  · have := toDigits_inj htext
    omega
  · exact absurd htext (hminus _ _)
  · exact absurd htext.symm (hminus _ _)
  · have := toDigits_inj (List.cons.inj htext).2
    omega

/-! ## Quoted texts -/

namespace Text

lemma hexDigits_inj {width m n : Nat} (hm : m < 16 ^ width) (hn : n < 16 ^ width)
    (h : hexDigits width m = hexDigits width n) : m = n := by
  induction width generalizing m n with
  | zero =>
    rw [pow_zero] at hm hn
    omega
  | succ width ih =>
    have hdigit : ∀ a < 16, ∀ b < 16, hexDigit a = hexDigit b → a = b := by decide
    rw [hexDigits, hexDigits] at h
    obtain ⟨hinit, hlast⟩ := List.append_inj' h rfl
    have hlow := hdigit _ (Nat.mod_lt m (by decide)) _ (Nat.mod_lt n (by decide))
      (List.singleton_inj.1 hlast)
    rw [pow_succ] at hm hn
    have hhigh := ih (by omega) (by omega) hinit
    omega

/-- The characters that are written by one character behind a backslash, with that character. -/
def shortEscapes (q : Char) : List (Char × Char) :=
  [('\\', '\\'), (q, q), ('\n', 'n'), ('\r', 'r'), ('\t', 't')]

/-- The letters for code points, with the numbers of their digits. -/
def codeEscapes : List (Char × Nat) := [('x', 2), ('u', 4), ('U', 8)]

lemma escapeCode_eq (c : Char) : ∃ letter width,
    escapeCode c = '\\' :: letter :: hexDigits width c.toNat ∧ (letter, width) ∈ codeEscapes ∧
      c.toNat < 16 ^ width := by
  unfold escapeCode
  dsimp only
  split_ifs with h2 h4
  · exact ⟨'x', 2, rfl, by decide, h2⟩
  · exact ⟨'u', 4, rfl, by decide, h4⟩
  · refine ⟨'U', 8, rfl, by decide, ?_⟩
    have hvalid : c.toNat < 0xd800 ∨ 0xdfff < c.toNat ∧ c.toNat < 0x110000 := c.valid
    omega

/-- A character is written as it is, by one character behind a backslash or by its code point. -/
lemma escapeChar_cases (q c : Char) :
    (escapeChar q c = [c] ∧ c ≠ '\\' ∧ c ≠ q) ∨
      (∃ e, escapeChar q c = ['\\', e] ∧ (c, e) ∈ shortEscapes q) ∨
      ∃ letter width, escapeChar q c = '\\' :: letter :: hexDigits width c.toNat ∧
        (letter, width) ∈ codeEscapes ∧ c.toNat < 16 ^ width := by
  unfold escapeChar
  split_ifs with hself hline hreturn htab
  · refine .inr (.inl ⟨c, rfl, ?_⟩)
    obtain rfl | rfl : c = '\\' ∨ c = q := by simpa using hself
    · simp [shortEscapes]
    · simp [shortEscapes]
  · exact .inr (.inl ⟨'n', rfl, by simp [shortEscapes, hline]⟩)
  · exact .inr (.inl ⟨'r', rfl, by simp [shortEscapes, hreturn]⟩)
  · exact .inr (.inl ⟨'t', rfl, by simp [shortEscapes, htab]⟩)
  · exact .inl ⟨rfl, by simpa using hself⟩
  · exact .inr (.inr (escapeCode_eq c))

section

variable {q : Char} (hq : q = '\'' ∨ q = '"')

include hq

/-- What is behind the backslash tells the character, where it is no letter for code points. -/
lemma shortEscapes_inj {c d e : Char} (hc : (c, e) ∈ shortEscapes q)
    (hd : (d, e) ∈ shortEscapes q) : c = d := by
  have hall : ((shortEscapes q).all fun x => (shortEscapes q).all fun y =>
      x.2 != y.2 || x.1 == y.1) = true := by
    obtain rfl | rfl := hq <;> decide
  simpa using List.all_eq_true.1 (List.all_eq_true.1 hall _ hc) _ hd

lemma shortEscapes_ne_codeEscapes {c e : Char} {width : Nat} (hc : (c, e) ∈ shortEscapes q) :
    (e, width) ∉ codeEscapes := by
  have hall : ((shortEscapes q).all fun x => codeEscapes.all fun y => x.2 != y.1) = true := by
    obtain rfl | rfl := hq <;> decide
  exact fun hcode => by simpa using List.all_eq_true.1 (List.all_eq_true.1 hall _ hc) _ hcode

/-- Between quotes each character can be told. -/
lemma tells_escapeChar (c d : Char) : Tells (escapeChar q) id c d := by
  refine fun r r' => ⟨fun h => ?_, fun ⟨hcd, hr⟩ => by rw [id, id] at hcd; rw [hcd, hr]⟩
  obtain ⟨hc, hbackslash, -⟩ | ⟨e, hc, he⟩ | ⟨letter, width, hc, hletter, hlt⟩ :=
    escapeChar_cases q c
  all_goals
    obtain ⟨hd, hbackslash', -⟩ | ⟨e', hd, he'⟩ | ⟨letter', width', hd, hletter', hlt'⟩ :=
      escapeChar_cases q d
    all_goals rw [hc, hd] at h
  · simpa using h
  · exact absurd (List.cons.inj h).1 hbackslash
  · exact absurd (List.cons.inj h).1 hbackslash
  · exact absurd (List.cons.inj h).1.symm hbackslash'
  · obtain ⟨-, rfl, hr⟩ : '\\' = '\\' ∧ e = e' ∧ r = r' := by simpa using h
    exact ⟨shortEscapes_inj hq he he', hr⟩
  · obtain ⟨rfl, -⟩ := List.cons.inj (List.cons.inj h).2
    exact absurd hletter' (shortEscapes_ne_codeEscapes hq he)
  · exact absurd (List.cons.inj h).1.symm hbackslash'
  · obtain ⟨rfl, -⟩ := List.cons.inj (List.cons.inj h).2
    exact absurd hletter (shortEscapes_ne_codeEscapes hq he')
  · obtain ⟨rfl, hrest⟩ := List.cons.inj (List.cons.inj h).2
    have hwidth : ∀ x ∈ codeEscapes, ∀ y ∈ codeEscapes, x.1 = y.1 → x.2 = y.2 := by decide
    obtain rfl : width = width' := hwidth _ hletter _ hletter' rfl
    obtain ⟨hdigits, hr⟩ := List.append_inj hrest (by simp)
    exact ⟨Char.toNat_inj.1 (hexDigits_inj hlt hlt' hdigits), hr⟩

lemma startsOff_escapeChar (c : Char) : StartsOff (escapeChar q) q c := by
  have hbackslash : '\\' ≠ q := by
    obtain rfl | rfl := hq <;> decide
  obtain ⟨hc, -, hne⟩ | ⟨e, hc, -⟩ | ⟨letter, width, hc, -, -⟩ := escapeChar_cases q c
  · exact ⟨c, [], hc, hne⟩
  · exact ⟨'\\', _, hc, hbackslash⟩
  · exact ⟨'\\', _, hc, hbackslash⟩

end

/-- **A text is told by what it is between quotes.** -/
theorem quoted_inj {s t : String} : quoted s = quoted t ↔ s = t := by
  refine ⟨fun h => ?_, fun h => by rw [h]⟩
  rw [quoted, quoted, String.ofList_inj, quoteChars, quoteChars] at h
  obtain ⟨hq, hbody⟩ := List.cons.inj h
  rw [← hq] at hbody
  have hquote := quoteFor_eq_or s.toList
  have hchars := (flatMap_append_cons_iff (fun c _ d _ => tells_escapeChar hquote c d)
    (fun c _ => startsOff_escapeChar hquote c) (fun d _ => startsOff_escapeChar hquote d)
    [] []).1 hbody
  exact String.toList_inj.1 (by simpa using hchars.1)

end Text

/-! ## Tokens -/

namespace Token

/-- What a token of a kind that carries something is shown as. -/
inductive ShownAs : Kind → Payload → String → Prop
  /-- An integer literal. -/
  | int (n : Int) : ShownAs .intLiteral (.int n) (toString n)
  /-- A string literal. -/
  | string (s : String) : ShownAs .stringLiteral (.text s) (Text.quoted s)
  /-- A truth literal. -/
  | bool (b : Bool) : ShownAs .boolLiteral (.bool b) (if b then "true" else "false")
  /-- Any other token carries the text that it is shown as. -/
  | plain {k : Kind} (hk : k ∉ [Kind.intLiteral, .stringLiteral, .boolLiteral]) (s : String) :
      ShownAs k (.text s) s

/-- **What a token of a kind carries is told by the text that it is shown as.** -/
theorem ShownAs.text_eq_iff {k : Kind} {p p' : Payload} {s s' : String} (h : ShownAs k p s)
    (h' : ShownAs k p' s') : s = s' ↔ p = p' := by
  cases h with
  | int n =>
    cases h' with
    | int n' => rw [intText_inj, Payload.int.injEq]
    | plain hk => exact absurd (by decide) hk
  | string s =>
    cases h' with
    | string s' => rw [Text.quoted_inj, Payload.text.injEq]
    | plain hk => exact absurd (by decide) hk
  | bool b =>
    cases h' with
    | bool b' => cases b <;> cases b' <;> decide
    | plain hk => exact absurd (by decide) hk
  | plain hk s =>
    cases h' with
    | int | string | bool => exact absurd (by decide) hk
    | plain _ s' => rw [Payload.text.injEq]

/-- Tokens of texts are shown as what they carry. -/
lemma Lexed.shownAs {t : Token} (h : Lexed t) : ShownAs t.kind t.payload t.text := by
  cases h with
  | @word w span hw =>
    rw [text_ofWord]
    obtain ⟨rfl, h⟩ | ⟨rfl, h⟩ | ⟨b, rfl, h⟩ | ⟨-, h⟩ | h := classifyWord_cases w
    all_goals simp only [ofWord, h]
    · exact .plain (by decide) _
    · exact .plain (by decide) _
    · exact .bool b
    · exact .plain (by decide) _
    · exact .plain (by decide) _
  | int => exact .int _
  | string => exact .string _
  | @symbol s kind span h =>
    rw [text_of_mem_symbols h]
    have hkind : ∀ x ∈ symbols, x.2 ∉ [Kind.intLiteral, .stringLiteral, .boolLiteral] := by decide
    exact .plain (hkind _ h) s

/-- So are error leaves. -/
lemma Lexed.shownAs_asError {t : Token} (h : Lexed t) (ht : Grammar.isStray t.kind = true) :
    ShownAs .error t.payload t.asError.text := by
  rw [h.text_asError ht]
  have hshown := h.shownAs
  generalize t.kind = k, t.payload = p, t.text = s at hshown ht
  cases hshown with
  | int | string | bool => cases ht
  | plain _ s => exact .plain (by decide) s

end Token

end Scriptlet
