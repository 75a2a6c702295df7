import Scriptlet.Proofs.Scanning.Locality
import Scriptlet.Proofs.Scanning.Spelling

/-!
# Stretches of text and their tokens

`Covers rest before cs ts`: where `rest` stands behind it and a token of the kind `before` before
it, the text `cs` consists of the tokens `ts` and of gaps before them.  The tokens of a text cover
it, and each run of them covers a stretch of it (`Behind.covers`); a text that tokens cover is read
as these tokens (`Covers.tokens`).
-/

namespace Scriptlet.Token

/-- The text consists of the lexemes of the tokens, each with a gap before it and each read as its
token where it stands. -/
inductive Covers (rest : List Char) : Option Kind → List Char → List Token → Prop
  /-- Nothing. -/
  | nil {before : Option Kind} : Covers rest before [] []
  /-- A token with a gap before it. -/
  | token {before : Option Kind} {gap cs : List Char} {t : Token} {ts : List Token}
      (hgap : IsGap False gap)
      (ht : Heads before (t.lexeme.toList ++ (cs ++ rest)) t.kind t.payload (cs ++ rest))
      (h : Covers rest (some t.kind) cs ts) :
      Covers rest before (gap ++ (t.lexeme.toList ++ cs)) (t :: ts)

namespace Covers

variable {rest cs : List Char} {before : Option Kind} {ts : List Token}

lemma append {ds : List Char} {us : List Token} (h : Covers (ds ++ rest) before cs ts)
    (h' : Covers rest (lastKind before ts) ds us) : Covers rest before (cs ++ ds) (ts ++ us) := by
  induction h with
  | nil => exact h'
  | @token before gap cs t ts hgap ht _ ih =>
    rw [← List.append_assoc cs] at ht
    rw [List.append_assoc, List.append_assoc]
    exact .token hgap ht (ih h')

/-- What covers a stretch covers it also where something else follows, if the last token ends there
all the same. -/
lemma congr {rest' : List Char} (h : Covers rest before cs ts) (hrest : LooksLike rest rest') :
    Covers rest' before cs ts := by
  induction h with
  | nil => exact .nil
  | token hgap ht _ ih => exact .token hgap (ht.congr (hrest.append _)) ih

end Covers

lemma Heads.kind_ne {before : Option Kind} {cs rest : List Char} {k : Kind} {p : Payload}
    (h : Heads before cs k p rest) : k ≠ .eof := by
  obtain ⟨c, ds, -, -, hf, -⟩ := h
  exact (sound_readLexeme before c ds k p none hf).kind_ne.2

/-- A text that starts with what tokens cover is read as these tokens, and then as what is read
behind them. -/
lemma Covers.reads {rest cs : List Char} {ts : List Token} {s : Scanner}
    (h : Covers rest s.before cs ts) (hs : s.rest = cs ++ rest) :
    ∃ (us : List Token) (s' : Scanner), us.map bare = ts.map bare ∧ s'.rest = rest ∧
      s'.before = lastKind s.before ts ∧ s.tokens = s'.tokens.map (us ++ ·) := by
  generalize hb : s.before = before at h
  induction h generalizing s with
  | nil => exact ⟨[], s, rfl, hs, hb, by cases s.tokens <;> rfl⟩
  | @token before gap cs t ts hgap ht _ ih =>
    subst hb
    rw [List.append_assoc, List.append_assoc] at hs
    rw [Scanner.tokens_congr (Scanner.next_gap hgap hs)]
    -- behind the gap the token is the next one
    generalize hs' : ({ s with
      position := s.position.advance gap, rest := t.lexeme.toList ++ (cs ++ rest) } : Scanner) = s'
    have hheads : Heads s'.before s'.rest t.kind t.payload (cs ++ rest) := by
      rw [← hs']
      exact ht
    obtain ⟨u, s'', hnext, hu, hbefore, hrest'⟩ := Scanner.next_of_heads hheads
    have hkind : u.kind ≠ .eof := fun heof => ht.kind_ne ((congrArg kind hu).symm.trans heof)
    obtain ⟨us, last, hus, hrest, hlast, htokens⟩ := ih hrest' hbefore
    refine ⟨u :: us, last, ?_, hrest, hlast, ?_⟩
    · rw [List.map_cons, List.map_cons, hus, hu]
      rfl
    · rw [Scanner.tokens_of_token hnext hkind, htokens]
      cases last.tokens <;> rfl

/-- **A text that tokens cover is read as these tokens.** -/
theorem Covers.tokens {rest cs : List Char} {ts : List Token} {s : Scanner}
    (h : Covers rest s.before cs ts) (hs : s.rest = cs ++ rest) (hrest : IsGap True rest) :
    ∃ us e, s.tokens = .ok (us ++ [e]) ∧ e.kind = .eof ∧ us.map bare = ts.map bare := by
  obtain ⟨us, s', hus, hs', -, htokens⟩ := h.reads hs
  have hgap : skipGap s'.rest = (skipGap []).after rest := by
    rw [hs', ← hrest.skipGap_append fun _ => rfl, List.append_nil]
  rw [skipGap] at hgap
  have hnext := Scanner.next_of_end (s := s') (by rw [hgap]; rfl) (by rw [hgap]; rfl)
  have hend := Scanner.tokens_of_end (congrArg Prod.fst hnext) rfl
  exact ⟨us, _, htokens.trans (congrArg (Except.map (us ++ ·)) hend), rfl, hus⟩

namespace Scanner

/-- Reading the token `t` takes the scanner `s` over a gap and the lexeme of the token. -/
structure Passes (s : Scanner) (gap : List Char) (t : Token) : Prop where
  /-- The gap. -/
  isGap : IsGap False gap
  /-- The text was there to be read. -/
  text : s.rest = gap ++ (t.lexeme.toList ++ s.next.2.rest)
  /-- The lexeme is read as the token. -/
  heads : Heads s.before (t.lexeme.toList ++ s.next.2.rest) t.kind t.payload s.next.2.rest
  /-- The token says where it stands. -/
  span : t.span = some ⟨s.position.advance gap, s.next.2.position, s.source.file⟩
  /-- Reading goes on behind the token. -/
  next : s.next.2 = ⟨s.source, s.position.advance (gap ++ t.lexeme.toList), s.next.2.rest,
    some t.kind⟩

lemma passes_next {s : Scanner} {t : Token} (hnext : s.next.1 = .token t) (ht : t.kind ≠ .eof) :
    ∃ gap, s.Passes gap t := by
  obtain ⟨hc, hr | ⟨c, cs, k, p, hr, hf⟩⟩ := next_eq_token hnext
  · rw [next_of_end hc hr] at hnext
    cases hnext
    exact absurd rfl ht
  · have htext := skipped_append_rest s.rest
    have hgap := isGap_skipGap hc
    have hs := next_of_ok hc hr hf
    have hheads : Heads s.before ((readLexeme s.before c cs).text ++
        (readLexeme s.before c cs).rest) k p (readLexeme s.before c cs).rest := by
      rw [text_append_rest_readLexeme, ← hr]
      exact ⟨c, cs, hr, skipGap_rest hc, hf, rfl⟩
    rw [hs] at hnext
    cases hnext
    rw [hr, ← text_append_rest_readLexeme s.before c cs] at htext
    rw [hr] at hgap
    refine ⟨(skipGap s.rest).skipped, ?_⟩
    constructor
    case isGap => simpa using hgap
    case text => simpa [hs] using htext.symm
    case heads => simpa [hs] using hheads
    case span => simp [hs]
    case next => simp [hs, Position.advance_append]

/-- Reading the tokens `ts` takes the scanner `s` over the text `cs` to the scanner `s'`. -/
structure Crosses (s s' : Scanner) (cs : List Char) (ts : List Token) : Prop where
  /-- The text was there to be read. -/
  text : s.rest = cs ++ s'.rest
  /-- It consists of the tokens. -/
  covers : Covers s'.rest s.before cs ts
  /-- The last token ends where reading goes on. -/
  stop : ∀ t ∈ ts.getLast?, ∃ start, t.span = some ⟨start, s'.position, s.source.file⟩
  /-- Reading goes on behind the text. -/
  next : s' = ⟨s.source, s.position.advance cs, s'.rest, lastKind s.before ts⟩

lemma Passes.crosses {s s' : Scanner} {gap cs : List Char} {t : Token} {ts : List Token}
    (h : s.Passes gap t) (h' : s.next.2.Crosses s' cs ts) :
    s.Crosses s' (gap ++ (t.lexeme.toList ++ cs)) (t :: ts) := by
  have hheads := h.heads
  rw [h'.text] at hheads
  have hcovers := h'.covers
  rw [h.next] at hcovers
  constructor
  case text => simp [h.text, h'.text]
  case covers => exact .token h.isGap hheads hcovers
  case stop =>
    cases ts with
    | nil =>
      cases hcovers
      rintro u ⟨⟩
      rw [congrArg Scanner.position h'.next]
      exact ⟨_, h.span⟩
    | cons u us =>
      have hstop := h'.stop
      rw [congrArg Scanner.source h.next] at hstop
      exact hstop
  case next =>
    have hnext := h'.next
    rw [h.next] at hnext
    simpa [Position.advance_append] using hnext

/-- **Each run of tokens covers a stretch of the text**, and reading goes on behind it. -/
theorem exists_crosses {s : Scanner} {ts us : List Token} (h : s.tokens = .ok (ts ++ us))
    (hus : us ≠ []) :
    ∃ (s' : Scanner) (cs : List Char), s.Crosses s' cs ts ∧ s'.tokens = .ok us := by
  induction ts generalizing s with
  | nil => exact ⟨s, [], ⟨rfl, .nil, nofun, rfl⟩, h⟩
  | cons t ts ih =>
    obtain ⟨t', hnext, ⟨-, hsplit⟩ | ⟨heof, rest, hrest, hsplit⟩⟩ := tokens_eq_ok h
    · exact absurd (List.append_eq_nil_iff.1 (List.cons.inj hsplit).2).2 hus
    · cases hsplit
      obtain ⟨gap, hpasses⟩ := passes_next hnext heof
      obtain ⟨s', cs, hcross, hs'⟩ := ih hrest
      exact ⟨s', _, hpasses.crosses hcross, hs'⟩

lemma bare_of_tokens {s : Scanner} {ts : List Token} {e : Token} (h : s.tokens = .ok (ts ++ [e])) :
    e.bare = { kind := .eof } := by
  obtain ⟨s', cs, -, hs'⟩ := exists_crosses h (List.cons_ne_nil e [])
  obtain ⟨e', hnext, ⟨heof, hsplit⟩ | ⟨-, us, hus, hsplit⟩⟩ := tokens_eq_ok hs'
  · cases hsplit
    exact bare_of_eof hnext heof
  · cases hsplit
    obtain ⟨vs, v, hvs, -, -⟩ := lexed_tokens hus
    simp at hvs

end Scanner

end Scriptlet.Token
