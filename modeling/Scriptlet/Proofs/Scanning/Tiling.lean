import Mathlib.Data.List.DropRight
import Scriptlet.Proofs.Scanning.Decoding
import Scriptlet.Proofs.Scanning.Spelling
import Scriptlet.Proofs.Scanning.Trivia

/-!
# Tokens tile their text

The tokens of a text cover it, in their order and but for the gaps between them.  Each stands where
its span says that it does, its lexeme is the stretch of text that the span covers, and the lines
and columns of the span are those of a count from the start of the text (`tokens_tile`).
-/

namespace Scriptlet

/-- The position behind a text: its line is counted by line feeds, its column from the last one. -/
def Position.behind (cs : List Char) : Position :=
  ⟨1 + cs.count '\n', 1 + (cs.rtakeWhile (· ≠ '\n')).length, cs.length⟩

/-- Counting on character by character comes to the position behind the text. -/
lemma Position.advance_start (cs : List Char) : Position.start.advance cs = .behind cs := by
  induction cs using List.reverseRecOn with
  | nil => rfl
  | append_singleton cs c ih =>
    rw [advance_append, ih, advance_cons, advance_nil]
    by_cases hc : c = '\n'
    · subst hc
      simp [next, behind]
      omega
    · simp [next, behind, hc]
      omega

lemma Position.advance_behind (cs ds : List Char) :
    (Position.behind cs).advance ds = .behind (cs ++ ds) := by
  rw [← advance_start, ← advance_append, advance_start]

@[simp] lemma Position.offset_behind (cs : List Char) : (Position.behind cs).offset = cs.length :=
  rfl

namespace Token

/-- Where the last of some tokens ends, given where the text before them does. -/
def endOf (before : Nat) (ts : List Token) : Nat :=
  ts.foldl (fun n t => (t.span.map (·.stop.offset)).getD n) before

/-- The token `t` of a text stands from `start` to `stop`, behind a token that ends at `last` and is
of the kind `before`, if there is one. -/
structure Tile (source : Source) (last : Nat) (before : Option Kind) (t : Token)
    (start stop : Position) : Prop where
  /-- The token says where it stands. -/
  span : t.span = some ⟨start, stop, source.file⟩
  /-- The start is counted from the start of the text. -/
  start_eq : start = .behind (source.text.toList.take start.offset)
  /-- So is the end. -/
  stop_eq : stop = .behind (source.text.toList.take stop.offset)
  /-- The token starts behind those before it. -/
  behind : last ≤ start.offset
  /-- In between there is a gap. -/
  gap : IsGap (t.kind = .eof) (source.text.toList.extract last start.offset)
  /-- The token is its stretch of the text. -/
  lexeme : t.lexeme.toList = source.text.toList.extract start.offset stop.offset
  /-- That is empty at the end of the text only. -/
  nonempty : t.kind ≠ .eof → start.offset < stop.offset
  /-- The end of the tokens is the end of the text. -/
  eof : t.kind = .eof → start.offset = source.text.toList.length ∧ stop = start
  /-- The token says what its text says, and goes as far as it can. -/
  reading : Reading before t.lexeme.toList (source.text.toList.drop stop.offset) t.kind t.payload

lemma extract_append (as bs cs : List Char) :
    (as ++ bs ++ cs).extract as.length (as ++ bs).length = bs := by
  simp

/-- A token that is read off a text behind a gap, with the rest of the text behind it. -/
lemma tile_of_append {source : Source} {before : Option Kind} {done gap text rest : List Char}
    {k : Kind} {p : Payload} (htext : source.text.toList = done ++ (gap ++ (text ++ rest)))
    (hgap : IsGap (k = .eof) gap) (hsome : k ≠ .eof → text ≠ [])
    (heof : k = .eof → text = [] ∧ rest = []) (hreading : Reading before text rest k p) :
    Tile source done.length before
      ⟨k, p, String.ofList text,
        some ⟨.behind (done ++ gap), .behind (done ++ gap ++ text), source.file⟩⟩
      (.behind (done ++ gap)) (.behind (done ++ gap ++ text)) := by
  have hstart : source.text.toList = done ++ gap ++ (text ++ rest) := by
    rw [htext, List.append_assoc]
  have hstop : source.text.toList = done ++ gap ++ text ++ rest := by
    rw [hstart, ← List.append_assoc]
  constructor
  case span => rfl
  case start_eq => rw [Position.offset_behind, hstart, List.take_left]
  case stop_eq => rw [Position.offset_behind, hstop, List.take_left]
  case behind => simp
  case gap =>
    rw [Position.offset_behind, hstart, extract_append]
    exact hgap
  case lexeme =>
    rw [Position.offset_behind, Position.offset_behind, hstop, extract_append,
      String.toList_ofList]
  case nonempty =>
    intro hk
    have hlen := List.length_pos_iff.2 (hsome hk)
    simp only [Position.offset_behind, List.length_append]
    omega
  case eof =>
    intro hk
    obtain ⟨rfl, rfl⟩ := heof hk
    simp [hstart]
  case reading =>
    rw [Position.offset_behind, hstop, List.drop_left, String.toList_ofList]
    exact hreading

namespace Scanner

/-- The scanner stands behind the text `done` of its source. -/
structure Behind (s : Scanner) (done : List Char) : Prop where
  /-- The rest of the text follows. -/
  text : s.source.text.toList = done ++ s.rest
  /-- The position is counted from the start of the text. -/
  position : s.position = .behind done

lemma behind_ofSource (source : Source) : (ofSource source).Behind [] := ⟨rfl, rfl⟩

lemma advance_of_behind {s : Scanner} {done : List Char} (h : s.Behind done) (cs : List Char) :
    s.position.advance cs = .behind (done ++ cs) := by
  rw [h.position, Position.advance_behind]

lemma next_end {s : Scanner} {done : List Char} (h : s.Behind done)
    (hc : (skipGap s.rest).closed = true) (hr : (skipGap s.rest).rest = []) :
    s.next =
      (.token ⟨.eof, .absent, "", some ⟨.behind (done ++ (skipGap s.rest).skipped),
          .behind (done ++ (skipGap s.rest).skipped), s.source.file⟩⟩,
        ⟨s.source, .behind (done ++ (skipGap s.rest).skipped), [], some .eof⟩) := by
  rw [next_of_end hc hr, advance_of_behind h]

lemma next_lexeme {s : Scanner} {done : List Char} {c : Char} {cs : List Char} {k : Kind}
    {p : Payload} (h : s.Behind done) (hc : (skipGap s.rest).closed = true)
    (hr : (skipGap s.rest).rest = c :: cs)
    (hf : (readLexeme s.before c cs).found = .ok (k, p)) :
    let start := done ++ (skipGap s.rest).skipped
    let stop := start ++ (readLexeme s.before c cs).text
    s.next =
      (.token ⟨k, p, String.ofList (readLexeme s.before c cs).text,
          some ⟨.behind start, .behind stop, s.source.file⟩⟩,
        ⟨s.source, .behind stop, (readLexeme s.before c cs).rest, some k⟩) := by
  simp only [next_of_ok hc hr hf, advance_of_behind h, ← Position.advance_start,
    Position.advance_append]

lemma next_fault {s : Scanner} {done : List Char} {c : Char} {cs : List Char} {fault : Fault}
    (h : s.Behind done) (hc : (skipGap s.rest).closed = true) (hr : (skipGap s.rest).rest = c :: cs)
    (hf : (readLexeme s.before c cs).found = .error fault) :
    let start := done ++ (skipGap s.rest).skipped
    let stop := start ++ (readLexeme s.before c cs).text
    s.next = (fault.report s.source (.behind start) (readLexeme s.before c cs).text,
      ⟨s.source, .behind stop, (readLexeme s.before c cs).rest, s.before⟩) := by
  simp only [next, hc, hr, hf, if_true, advance_of_behind h, ← Position.advance_start,
    Position.advance_append]

/-- Reading a token comes to a tile, with the scanner behind it. -/
lemma Behind.next {s : Scanner} {done : List Char} {t : Token} (h : s.Behind done)
    (hnext : s.next.1 = .token t) :
    ∃ start stop done', Tile s.source done.length s.before t start stop ∧
      s.next.2.Behind done' ∧ done'.length = stop.offset ∧ s.next.2.source = s.source ∧
      s.next.2.before = some t.kind := by
  have htext := h.text
  rw [← skipped_append_rest s.rest] at htext
  obtain ⟨hc, hr | ⟨c, cs, k, p, hr, hf⟩⟩ := next_eq_token hnext
  · have hgap := isGap_skipGap hc
    rw [next_end h hc hr] at hnext ⊢
    cases hnext
    rw [hr] at htext hgap
    have hlast : IsGap (Kind.eof = .eof) (skipGap s.rest).skipped := by simpa using hgap
    have hreading : Reading s.before [] [] .eof .absent :=
      ⟨.eof, nofun, by simp, nofun, nofun, nofun⟩
    have htile := tile_of_append htext hlast (fun h => absurd rfl h) (fun _ => ⟨rfl, rfl⟩)
      hreading
    rw [List.append_nil] at htile
    refine ⟨_, _, _, htile, ⟨?_, rfl⟩, rfl, rfl, rfl⟩
    rw [htext, List.append_assoc]
  · have hgap := isGap_skipGap hc
    rw [next_lexeme h hc hr hf] at hnext ⊢
    cases hnext
    have hkind : k ≠ .eof := (sound_readLexeme s.before c cs k p none hf).kind_ne.2
    rw [hr] at htext hgap
    rw [← text_append_rest_readLexeme s.before c cs] at htext
    have hinner : IsGap (k = .eof) (skipGap s.rest).skipped := by simpa [hkind] using hgap
    have htile := tile_of_append htext hinner (fun _ => text_ne_nil_readLexeme s.before c cs)
      (fun h => absurd h hkind) (faithful_readLexeme s.before c cs k p hf)
    refine ⟨_, _, _, htile, ⟨?_, rfl⟩, rfl, rfl, rfl⟩
    rw [htext, List.append_assoc, List.append_assoc]

lemma tokens_ne_nil {s : Scanner} {ts : List Token} (h : s.tokens = .ok ts) : ts ≠ [] := by
  obtain ⟨t, -, ⟨-, rfl⟩ | ⟨-, us, -, rfl⟩⟩ := tokens_eq_ok h
  · exact List.cons_ne_nil _ _
  · exact List.cons_ne_nil _ _

/-- The tokens from a place on tile the text behind it. -/
lemma Behind.tiles {s : Scanner} {done : List Char} {us vs : List Token} {t : Token}
    (h : s.Behind done) (htokens : s.tokens = .ok (us ++ t :: vs)) :
    (∃ start stop, Tile s.source (endOf done.length us) (lastKind s.before us) t start stop) ∧
      (t.kind = .eof ↔ vs = []) := by
  induction s using tokenInduction generalizing done us with
  | step s ih =>
    obtain ⟨u, hnext, hsplit⟩ := tokens_eq_ok htokens
    obtain ⟨start, stop, done', htile, hbehind, hlen, hsource, hbefore⟩ := h.next hnext
    cases us with
    | nil =>
      rcases hsplit with ⟨heof, hsplit⟩ | ⟨heof, rest, hrest, hsplit⟩
      · cases hsplit
        exact ⟨⟨start, stop, htile⟩, iff_of_true heof rfl⟩
      · cases hsplit
        exact ⟨⟨start, stop, htile⟩, iff_of_false heof (tokens_ne_nil hrest)⟩
    | cons u' us =>
      -- the token is one of those behind the first, which starts where the first one ends
      rcases hsplit with ⟨heof, hsplit⟩ | ⟨heof, rest, hrest, hsplit⟩
      · simp at hsplit
      · cases hsplit
        have hrun := ih u hnext heof hbehind hrest
        have hend : endOf done.length (u :: us) = endOf done'.length us := by
          rw [hlen, endOf, List.foldl_cons, htile.span]
          rfl
        rw [hend, lastKind_cons]
        rwa [hsource, hbefore] at hrun

end Scanner

end Token

/-- **The tokens of a text tile it.**  Each of them stands where its span says that it does, behind
a gap that starts where the token before it ends, and is the stretch of text that its span covers;
the lines and columns of the span are right.  It says what that text says and goes as far as it can.
A minus sign before a digit belongs to a literal just where an operand is due.  The last token, and
no other, is the end of the text. -/
theorem Source.tokens_tile {source : Source} {ts : List Token} (h : source.tokens = .ok ts) :
    ts ≠ [] ∧ ∀ us t vs, ts = us ++ t :: vs →
      (∃ start stop, Token.Tile source (Token.endOf 0 us) (Token.lastKind none us) t start stop) ∧
        (t.kind = .eof ↔ vs = []) := by
  refine ⟨Token.Scanner.tokens_ne_nil h, fun us t vs hsplit => ?_⟩
  rw [hsplit] at h
  exact (Token.Scanner.behind_ofSource source).tiles h

/-- The first minus sign of `1 - -2` is an operator, and the second one belongs to a literal. -/
theorem Source.tokens_tile_minus :
    let source : Source := ⟨"1 - -2", none⟩
    let t : Token := ⟨.intLiteral, .int (-2), "-2", some ⟨⟨1, 5, 4⟩, ⟨1, 7, 6⟩, none⟩⟩
    ∃ us vs, source.tokens = .ok (us ++ t :: vs) ∧ us.map (·.lexeme) = ["1", "-"] ∧
      ∃ start stop, Token.Tile source 3 (some .operator) t start stop := by
  intro source t
  let one : Token := ⟨.intLiteral, .int 1, "1", some ⟨⟨1, 1, 0⟩, ⟨1, 2, 1⟩, none⟩⟩
  let minus : Token := ⟨.operator, .text "-", "-", some ⟨⟨1, 3, 2⟩, ⟨1, 4, 3⟩, none⟩⟩
  let stop : Token := ⟨.eof, .absent, "", some ⟨⟨1, 7, 6⟩, ⟨1, 7, 6⟩, none⟩⟩
  have hread : source.tokens.toOption = some ([one, minus] ++ t :: [stop]) := by decide +kernel
  have htokens : source.tokens = .ok ([one, minus] ++ t :: [stop]) := by
    cases h : source.tokens with
    | error failure =>
      rw [h] at hread
      cases hread
    | ok ts =>
      rw [h] at hread
      exact congrArg Except.ok (Option.some.inj hread)
  have htiles := Source.tokens_tile htokens
  exact ⟨[one, minus], [stop], htokens, rfl, (htiles.2 [one, minus] t [stop] rfl).1⟩

end Scriptlet
