import Scriptlet.Proofs.Scanning.Trivia

/-!
# Texts that spell tokens

`Spells before cs ts`: the text `cs` consists of the texts of the tokens `ts`, in their order, with
spaces between them where two of them would run together.  A scanner reads just these tokens off
such a text, if the strings among them hold no character that quoting writes by its code point, and
it stops with an invalid escape otherwise (`Spells.tokens`).
-/

namespace Scriptlet.Token

/-! ## Texts -/

/-- The text consists of the texts of the tokens, with spaces or line feeds between them where they
would run together, given the kind of the token before.  A minus sign before a digit stands where
it belongs to a literal. -/
inductive Spells : Option Kind → List Char → List Token → Prop
  /-- The end of the text. -/
  | nil {before : Option Kind} : Spells before [] []
  /-- A space or a line feed. -/
  | space {before : Option Kind} {c : Char} {cs : List Char} {ts : List Token}
      (hc : c = ' ' ∨ c = '\n') (h : Spells before cs ts) : Spells before (c :: cs) ts
  /-- A token. -/
  | token {before : Option Kind} {t : Token} {cs : List Char} {ts : List Token} (ht : Lexed t)
      (hsep : t.kind = .leftParen ∨ Separated cs)
      (hdue : t.isNegative = true → operandDue before = true) (h : Spells (some t.kind) cs ts) :
      Spells before (t.text.toList ++ cs) (t :: ts)

/-- The kind of the last of some tokens, given the kind of the token before them. -/
def lastKind (before : Option Kind) (ts : List Token) : Option Kind :=
  ts.foldl (fun _ t => some t.kind) before

@[simp] lemma lastKind_nil (before : Option Kind) : lastKind before [] = before := rfl

@[simp] lemma lastKind_cons (before : Option Kind) (t : Token) (ts : List Token) :
    lastKind before (t :: ts) = lastKind (some t.kind) ts := rfl

@[simp] lemma lastKind_append (before : Option Kind) (ts us : List Token) :
    lastKind before (ts ++ us) = lastKind (lastKind before ts) us := List.foldl_append

lemma Spells.append {before : Option Kind} {cs ds : List Char} {ts us : List Token}
    (h : Spells before cs ts) (hds : Separated ds) (h' : Spells (lastKind before ts) ds us) :
    Spells before (cs ++ ds) (ts ++ us) := by
  induction h with
  | nil => exact h'
  | space hc _ ih => exact .space hc (ih h')
  | @token before t cs ts ht hsep hdue _ ih =>
    rw [List.append_assoc, List.cons_append]
    refine .token ht (hsep.imp_right fun hcs => ?_) hdue (ih h')
    cases cs with
    | nil => exact hds
    | cons c cs => exact hcs

namespace Scanner

lemma next_gap {s : Scanner} {gap cs : List Char} (hgap : IsGap False gap)
    (hs : s.rest = gap ++ cs) :
    s.next = ({ s with position := s.position.advance gap, rest := cs } : Scanner).next := by
  unfold next
  rw [hs, hgap.skipGap_append False.elim]
  simp only [Gap.after, Position.advance_append]

lemma next_of_heads {s : Scanner} {k : Kind} {p : Payload} {rest : List Char}
    (h : Heads s.before s.rest k p rest) :
    ∃ u s', s.next = (.token u, s') ∧ u.bare = { kind := k, payload := p } ∧
      s'.before = some k ∧ s'.rest = rest := by
  obtain ⟨c, ds, hsplit, hgap, hfound, hrest⟩ := h
  have hnext :=
    next_of_ok (by rw [hgap]) (show (skipGap s.rest).rest = c :: ds by rw [hgap, hsplit]) hfound
  exact ⟨_, _, hnext, rfl, rfl, hrest⟩

lemma next_of_faults {s : Scanner} (h : Faults s.before s.rest) :
    ∃ e what, s.next.1 = .error e ∧ e.cause = .invalidEscape what := by
  obtain ⟨c, ds, d, hsplit, hgap, hfound⟩ := h
  obtain ⟨start, hnext⟩ :=
    next_of_fault (by rw [hgap]) (show (skipGap s.rest).rest = c :: ds by rw [hgap, hsplit]) hfound
  refine ⟨_, String.singleton d, hnext, ?_⟩
  rw [LangError.cause_attach]
  rfl

lemma tokens_congr {s s' : Scanner} (h : s.next = s'.next) : s.tokens = s'.tokens := by
  rw [tokens.eq_def, tokens.eq_def s', h]

end Scanner

/-- **What a scanner makes of a text that spells tokens.**  If all strings among the tokens can be
read back, it reads tokens that say the same; otherwise it stops at an invalid escape. -/
theorem Spells.tokens {s : Scanner} {ts : List Token} (h : Spells s.before s.rest ts) :
    ((∀ t ∈ ts, ∀ u ∈ t.string?, Rereadable u) ∧
        ∃ us e, s.tokens = .ok (us ++ [e]) ∧ e.kind = .eof ∧ us.map bare = ts.map bare) ∨
      ((∃ t ∈ ts, ∃ u ∈ t.string?, ¬ Rereadable u) ∧
        ∃ e what, s.tokens = .error (.language e) ∧ e.cause = .invalidEscape what) := by
  generalize hb : s.before = before at h
  generalize hcs : s.rest = cs at h
  induction h generalizing s with
  | nil =>
    have hgap : skipGap s.rest = ⟨[], [], true⟩ := by rw [hcs, skipGap]
    have hnext := Scanner.next_of_end (s := s) (by rw [hgap]) (by rw [hgap])
    exact .inl ⟨by simp, [], _, Scanner.tokens_of_end (congrArg Prod.fst hnext) rfl, rfl, rfl⟩
  | @space before c cs ts hc h ih =>
    have hmem : c ∈ [' ', '\t', '\r', '\n'] := by
      rcases hc with rfl | rfl <;> decide
    rw [Scanner.tokens_congr (Scanner.next_gap (.space hmem .nil) hcs)]
    exact ih hb rfl
  | @token before t cs ts ht hsep hdue h ih =>
    rw [← hb] at hdue
    -- the token is read back, or it is the first string that cannot be
    obtain ⟨hplain, hheads⟩ | ⟨hbad, hfaults⟩ := heads_text ht hsep hdue
    · rw [← hcs] at hheads
      obtain ⟨u, s', hnext, hu, hbefore, hrest⟩ := Scanner.next_of_heads hheads
      have hkind : u.kind ≠ .eof := by
        have hsame : u.bare.kind = t.kind := by rw [hu]
        exact fun heof => ht.kind_ne.2 (hsame.symm.trans heof)
      rw [Scanner.tokens_of_token hnext hkind]
      obtain ⟨hall, us, e, htokens, he, hus⟩ | ⟨⟨v, hv, hbad⟩, e, what, htokens, he⟩ :=
        ih hbefore hrest
      · refine .inl ⟨List.forall_mem_cons.2 ⟨hplain, hall⟩, u :: us, e, ?_, he, ?_⟩
        · rw [htokens]
          rfl
        · rw [List.map_cons, List.map_cons, hus, hu]
          rfl
      · refine .inr ⟨⟨v, List.mem_cons_of_mem t hv, hbad⟩, e, what, ?_, he⟩
        rw [htokens]
        rfl
    · rw [← hcs] at hfaults
      obtain ⟨e, what, hnext, he⟩ := Scanner.next_of_faults hfaults
      exact .inr ⟨⟨t, List.mem_cons_self, hbad⟩, e, what, Scanner.tokens_of_error hnext, he⟩

end Scriptlet.Token
