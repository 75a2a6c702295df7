import Mathlib.Data.Nat.Find
import Mathlib.Logic.Function.Iterate
import Mathlib.Order.Monotone.Basic
import Scriptlet.Proofs.Diagnostics.Marks

/-!
# Scanning gets on

A scanner can be asked for one event after the other, and it does not matter whether those before
were tokens or faults.  Each time it takes a further stretch of its text (`Behind.takes`), and
what it reports stands in that stretch; so the end of the text is reached after no more other events
than the text has characters (`Source.scanning_advances`).
-/

namespace Scriptlet

open Token

/-- The span of an event; a literal that is too long has none. -/
def Token.Event.span? : Event → Option Span
  | .token t => t.span
  | .error e => e.span
  | .tooLong _ => none

namespace Token

/-- A fault is reported where what it is about stands, unless a literal is too long. -/
lemma span?_report (fault : Fault) (source : Source) (start : Position) (text : List Char) :
    (∃ reason, fault.report source start text = .tooLong reason) ∨
      (fault.report source start text).span? =
        some ⟨start.advance (fault.lead text), start.advance text, source.file⟩ := by
  cases hreport : fault.report source start text with
  | token t => exact absurd hreport (Scanner.report_ne_token _ _ _ _ t)
  | tooLong reason => exact .inl ⟨reason, rfl⟩
  | error e =>
    obtain ⟨cause, rfl⟩ := report_eq_error hreport
    exact .inr (LangError.span_attach _ _)

namespace Scanner

/-! ## One event -/

/-- Reading on from behind the text `done` takes the stretch `taken`. -/
structure Takes (s : Scanner) (done taken : List Char) : Prop where
  /-- The next place is behind that stretch. -/
  behind : s.next.2.Behind (done ++ taken)
  /-- It is a place in the same text. -/
  source : s.next.2.source = s.source
  /-- At the end of the text nothing is left. -/
  ended : s.next.1.isEnd = true → s.next.2.rest = []
  /-- Before it something is taken. -/
  nonempty : s.next.1.isEnd = false → taken ≠ []
  /-- What is reported stands at the end of the stretch, unless it is a literal that is too long. -/
  span : (∃ reason, s.next.1 = .tooLong reason) ∨ ∃ lead inside, taken = lead ++ inside ∧
    s.next.1.span? = some ⟨.behind (done ++ lead), .behind (done ++ taken), s.source.file⟩

section

variable {s : Scanner} {done : List Char}

/-- A comment that is never closed takes all that is left. -/
lemma Behind.takes_of_open (h : s.Behind done) (hc : (skipGap s.rest).closed = false) :
    s.Takes done s.rest := by
  have hsplit := skipped_append_rest s.rest
  -- the comment is part of what is left
  have hnonempty : s.rest ≠ [] := fun hnil =>
    rest_ne_nil_of_not_closed hc (List.append_eq_nil_iff.1 (hsplit.trans hnil)).2
  have hnext : s.next =
      (.error ((LangError.located .unterminatedComment
        (some ⟨.behind (done ++ (skipGap s.rest).skipped), .behind (done ++ s.rest),
          s.source.file⟩)).attach s.source.text),
        { s with position := .behind (done ++ s.rest), rest := [] }) := by
    simp only [Scanner.next, hc, Bool.false_eq_true, if_false, advance_of_behind h,
      Position.advance_behind, List.append_assoc, hsplit]
  rw [← hsplit] at hnonempty
  constructor
  case behind =>
    rw [hnext]
    exact ⟨by rw [List.append_nil]; exact h.text, rfl⟩
  case source => rw [hnext]
  case ended => exact fun _ => by rw [hnext]
  case nonempty => exact fun _ => hsplit ▸ hnonempty
  case span =>
    refine .inr ⟨_, _, hsplit.symm, ?_⟩
    rw [hnext]
    exact LangError.span_attach _ _

/-- At the end of the text a gap is taken. -/
lemma Behind.takes_end (h : s.Behind done) (hc : (skipGap s.rest).closed = true)
    (hr : (skipGap s.rest).rest = []) : s.Takes done s.rest := by
  have hsplit := skipped_append_rest s.rest
  rw [hr, List.append_nil] at hsplit
  have hnext := next_end h hc hr
  rw [hsplit] at hnext
  constructor
  case behind =>
    rw [hnext]
    exact ⟨by rw [List.append_nil]; exact h.text, rfl⟩
  case source => rw [hnext]
  case ended => exact fun _ => by rw [hnext]
  case nonempty =>
    rw [hnext]
    exact nofun
  case span =>
    refine .inr ⟨s.rest, [], (List.append_nil _).symm, ?_⟩
    rw [hnext]
    rfl

/-- What is left is a gap, a lexeme and the text behind it. -/
lemma rest_of_lexeme {c : Char} {cs : List Char} (hr : (skipGap s.rest).rest = c :: cs) :
    (skipGap s.rest).skipped ++ ((readLexeme s.before c cs).text ++
      (readLexeme s.before c cs).rest) = s.rest := by
  rw [text_append_rest_readLexeme, ← hr, skipped_append_rest]

/-- A token is taken with the gap before it. -/
lemma Behind.takes_lexeme (h : s.Behind done) (hc : (skipGap s.rest).closed = true) {c : Char}
    {cs : List Char} (hr : (skipGap s.rest).rest = c :: cs) {k : Kind} {p : Payload}
    (hf : (readLexeme s.before c cs).found = .ok (k, p)) :
    s.Takes done ((skipGap s.rest).skipped ++ (readLexeme s.before c cs).text) := by
  have hnext := next_lexeme h hc hr hf
  have hkind : k ≠ .eof := (sound_readLexeme s.before c cs k p none hf).kind_ne.2
  dsimp only at hnext
  rw [List.append_assoc] at hnext
  constructor
  case behind =>
    rw [hnext]
    refine ⟨?_, rfl⟩
    rw [List.append_assoc, List.append_assoc, rest_of_lexeme hr]
    exact h.text
  case source => rw [hnext]
  case ended =>
    rw [hnext]
    intro hend
    exact absurd (by simpa [Event.isEnd] using hend) hkind
  case nonempty =>
    exact fun _ => List.append_ne_nil_of_right_ne_nil _ (text_ne_nil_readLexeme s.before c cs)
  case span =>
    refine .inr ⟨_, _, rfl, ?_⟩
    rw [hnext]
    rfl

/-- What cannot be read is taken with the gap before it. -/
lemma Behind.takes_fault (h : s.Behind done) (hc : (skipGap s.rest).closed = true) {c : Char}
    {cs : List Char} (hr : (skipGap s.rest).rest = c :: cs) {fault : Fault}
    (hf : (readLexeme s.before c cs).found = .error fault) :
    s.Takes done ((skipGap s.rest).skipped ++ (readLexeme s.before c cs).text) := by
  have hnext := next_fault h hc hr hf
  dsimp only at hnext
  rw [List.append_assoc] at hnext
  constructor
  case behind =>
    rw [hnext]
    refine ⟨?_, rfl⟩
    rw [List.append_assoc, List.append_assoc, rest_of_lexeme hr]
    exact h.text
  case source => rw [hnext]
  case ended =>
    rw [hnext]
    intro hend
    cases hreport : fault.report s.source (.behind (done ++ (skipGap s.rest).skipped))
        (readLexeme s.before c cs).text with
    | token t => exact absurd hreport (report_ne_token _ _ _ _ t)
    | error e | tooLong reason =>
      rw [hreport] at hend
      cases hend
  case nonempty =>
    exact fun _ => List.append_ne_nil_of_right_ne_nil _ (text_ne_nil_readLexeme s.before c cs)
  case span =>
    obtain ⟨inside, htext, -⟩ := lead_readLexeme hf
    rw [hnext]
    refine (span?_report fault _ _ _).imp_right fun hspan => ?_
    refine ⟨(skipGap s.rest).skipped ++ fault.lead (readLexeme s.before c cs).text, inside, ?_, ?_⟩
    · rw [List.append_assoc, ← htext]
    · rw [hspan, Position.advance_behind, Position.advance_behind, List.append_assoc,
        List.append_assoc]

/-- **Reading on takes a further stretch of the text,** whatever it comes to. -/
theorem Behind.takes (h : s.Behind done) : ∃ taken, s.Takes done taken := by
  cases hc : (skipGap s.rest).closed with
  | false => exact ⟨_, h.takes_of_open hc⟩
  | true =>
    cases hr : (skipGap s.rest).rest with
    | nil => exact ⟨_, h.takes_end hc hr⟩
    | cons c cs =>
      cases hf : (readLexeme s.before c cs).found with
      | ok found => exact ⟨_, h.takes_lexeme hc hr hf⟩
      | error fault => exact ⟨_, h.takes_fault hc hr hf⟩

end

/-! ## Events one behind the other -/

section

variable {s : Scanner}

lemma events_of_isEnd {resumptions : ℕ} (h : s.next.1.isEnd = true) :
    s.events resumptions = ([s.next.1], s.next.2) := by
  rw [events, dif_pos h]

/-- Going on behind an event takes a resumption if it is a fault. -/
lemma exists_events_succ (h : s.next.1.isEnd = false) (resumptions : ℕ) :
    ∃ left ≥ resumptions, s.events (resumptions + 1) =
      (s.next.1 :: (s.next.2.events left).1, (s.next.2.events left).2) := by
  rw [events, dif_neg (by simp [h])]
  cases hevent : s.next.1 with
  | token t => exact ⟨resumptions + 1, Nat.le_succ _, rfl⟩
  | error e => exact ⟨resumptions, le_rfl, rfl⟩
  | tooLong reason => exact ⟨resumptions, le_rfl, rfl⟩

end

end Scanner

end Token

/-! ## The events of a text -/

namespace Source

variable (source : Source) (n : ℕ)

/-- The place behind the first `n` events of a text. -/
def place : Scanner := (fun s => s.next.2)^[n] (.ofSource source)

/-- What follows the first `n` events of a text. -/
def event : Event := (source.place n).next.1

/-- How much of a text its first `n` events take. -/
abbrev taken : ℕ := (source.place n).position.offset

/-- Behind the first `n` events of its text, the scanner gets on. -/
structure Advances : Prop where
  /-- No more is taken than the text. -/
  within : source.taken n ≤ source.text.length
  /-- The line and the column are counted from the start of the text. -/
  position : (source.place n).position = .behind (source.text.toList.take (source.taken n))
  /-- What is left is the rest of the text. -/
  rest : (source.place n).rest = source.text.toList.drop (source.taken n)
  /-- At the end all of the text is taken. -/
  ended : (source.event n).isEnd = true → source.taken (n + 1) = source.text.length
  /-- Any other event takes some of it. -/
  progress : (source.event n).isEnd = false → source.taken n < source.taken (n + 1)
  /-- What is reported stands in what is taken with it, unless it is a literal that is too long. -/
  span : (∃ reason, source.event n = .tooLong reason) ∨
    ∃ span, (source.event n).span? = some span ∧ source.taken n ≤ span.start.offset ∧
      span.start.offset ≤ span.stop.offset ∧ span.stop.offset = source.taken (n + 1) ∧
      span.start = .behind (source.text.toList.take span.start.offset) ∧
      span.stop = .behind (source.text.toList.take span.stop.offset)
  /-- It stands behind all that was reported before. -/
  order : ∀ m < n, ∀ earlier ∈ (source.event m).span?, ∀ later ∈ (source.event n).span?,
    earlier.stop.offset ≤ later.start.offset

variable {source n}

lemma place_succ : source.place (n + 1) = (source.place n).next.2 :=
  Function.iterate_succ_apply' _ n _

/-- Any number of events ends behind some of the text. -/
lemma behind_place : ∃ done, (source.place n).Behind done ∧ (source.place n).source = source := by
  induction n with
  | zero => exact ⟨[], Scanner.behind_ofSource source, rfl⟩
  | succ n ih =>
    obtain ⟨done, hbehind, hsource⟩ := ih
    obtain ⟨taken, htakes⟩ := hbehind.takes
    rw [place_succ]
    exact ⟨done ++ taken, htakes.behind, htakes.source.trans hsource⟩

/-- The first `n` events take `done`, the next one takes `taken`, and `left` is left. -/
structure Takes (source : Source) (n : ℕ) (done taken left : List Char) : Prop where
  /-- That is all of the text. -/
  text : source.text.toList = done ++ (taken ++ left)
  /-- The scanner reads that text. -/
  same : (source.place n).source = source
  /-- The event starts behind `done`. -/
  start : (source.place n).position = .behind done
  /-- It stops behind `taken`. -/
  stop : (source.place (n + 1)).position = .behind (done ++ taken)
  /-- The rest of the text follows. -/
  rest : (source.place n).rest = taken ++ left
  /-- Behind the event it is `left`. -/
  remains : (source.place (n + 1)).rest = left
  /-- What is reported stands in `taken`. -/
  reported : (source.place n).Takes done taken

variable (source n) in
lemma exists_takes : ∃ done taken left, source.Takes n done taken left := by
  obtain ⟨done, hbehind, hsource⟩ : ∃ done, (source.place n).Behind done ∧ _ := behind_place
  obtain ⟨taken, htakes⟩ := hbehind.takes
  have htext := hbehind.text
  have hnext := htakes.behind.text
  rw [htakes.source, List.append_assoc] at hnext
  refine ⟨done, taken, (source.place n).next.2.rest, ?_⟩
  constructor
  case text => rw [← hnext, hsource]
  case same => exact hsource
  case start => exact hbehind.position
  case stop => rw [place_succ, htakes.behind.position]
  case rest => exact List.append_cancel_left (htext.symm.trans hnext)
  case remains => rw [place_succ]
  case reported => exact htakes

section Takes

variable {done taken left : List Char}

lemma Takes.taken_eq (h : source.Takes n done taken left) : source.taken n = done.length := by
  rw [Source.taken, h.start, Position.offset_behind]

lemma Takes.taken_succ (h : source.Takes n done taken left) :
    source.taken (n + 1) = done.length + taken.length := by
  rw [Source.taken, h.stop, Position.offset_behind, List.length_append]

lemma Takes.length (h : source.Takes n done taken left) :
    source.text.length = done.length + (taken.length + left.length) := by
  rw [← String.length_toList, h.text, List.length_append, List.length_append]

end Takes

lemma taken_mono : Monotone source.taken :=
  monotone_nat_of_le_succ fun n => by
    obtain ⟨done, taken, left, h⟩ := source.exists_takes n
    rw [h.taken_eq, h.taken_succ]
    exact Nat.le_add_right _ _

/-- What is reported stands between the place before it and the place behind it. -/
lemma span_event (n : ℕ) : (∃ reason, source.event n = .tooLong reason) ∨
    ∃ span, (source.event n).span? = some span ∧ source.taken n ≤ span.start.offset ∧
      span.start.offset ≤ span.stop.offset ∧ span.stop.offset = source.taken (n + 1) ∧
      span.start = .behind (source.text.toList.take span.start.offset) ∧
      span.stop = .behind (source.text.toList.take span.stop.offset) := by
  obtain ⟨done, taken, left, h⟩ := source.exists_takes n
  refine h.reported.span.imp_right ?_
  rintro ⟨lead, inside, rfl, hspan⟩
  refine ⟨_, hspan, ?_⟩
  have hlead : source.text.toList.take (done ++ lead).length = done ++ lead := by
    rw [h.text, List.append_assoc, ← List.append_assoc, List.take_left]
  have hinside : source.text.toList.take (done ++ (lead ++ inside)).length =
      done ++ (lead ++ inside) := by
    rw [h.text, ← List.append_assoc _ (lead ++ inside), List.take_left]
  simp only [h.taken_eq, h.taken_succ, Position.offset_behind, hlead, hinside]
  simp [List.length_append]

variable (source n) in
/-- Behind any number of events the scanner gets on. -/
lemma advances : source.Advances n := by
  obtain ⟨done, taken, left, h⟩ := source.exists_takes n
  constructor
  case within =>
    rw [h.taken_eq, h.length]
    exact Nat.le_add_right _ _
  case position => rw [h.taken_eq, h.text, List.take_left, h.start]
  case rest => rw [h.taken_eq, h.text, List.drop_left, h.rest]
  case ended =>
    intro hend
    have hleft : left = [] := by rw [← h.remains, place_succ]; exact h.reported.ended hend
    rw [h.taken_succ, h.length, hleft, List.length_nil, Nat.add_zero]
  case progress =>
    intro hend
    have htaken := List.length_pos_iff.2 (h.reported.nonempty hend)
    rw [h.taken_eq, h.taken_succ]
    omega
  case span => exact span_event n
  case order =>
    intro m hmn earlier hearlier later hlater
    -- the stretches that events take follow one another, and what is reported stands in them
    obtain ⟨reason, hm⟩ | ⟨_, hm, -, -, hstop, -⟩ := source.span_event m
    · rw [hm] at hearlier
      cases hearlier
    obtain ⟨reason, hn⟩ | ⟨_, hn, hstart, -⟩ := source.span_event n
    · rw [hn] at hlater
      cases hlater
    obtain rfl := Option.some.inj (hearlier.symm.trans hm)
    obtain rfl := Option.some.inj (hlater.symm.trans hn)
    calc earlier.stop.offset = source.taken (m + 1) := hstop
      _ ≤ source.taken n := taken_mono hmn
      _ ≤ later.start.offset := hstart

/-! ## The end of a text -/

/-- As long as the end is not reached, every event takes a character at least. -/
lemma le_taken (h : ∀ m < n, (source.event m).isEnd = false) : n ≤ source.taken n := by
  induction n with
  | zero => exact Nat.zero_le _
  | succ n ih =>
    have hn := ih fun m hm => h m (Nat.lt_succ_of_lt hm)
    exact Nat.succ_le_of_lt (hn.trans_lt ((source.advances n).progress (h n n.lt_succ_self)))

variable (source) in
lemma exists_isEnd : ∃ k ≤ source.text.length, (source.event k).isEnd = true := by
  by_contra! hnot
  -- each event would take a character, one more than there are
  have hall : ∀ m < source.text.length + 1, (source.event m).isEnd = false := fun m hm =>
    Bool.eq_false_iff.2 (hnot m (Nat.le_of_lt_succ hm))
  have hlt := (le_taken hall).trans (source.advances _).within
  exact absurd hlt (Nat.not_succ_le_self _)

/-- Resumed often enough, the scanner reports the events of its text up to the end. -/
lemma events_place {k resumptions : ℕ} (hend : (source.event (n + k)).isEnd = true)
    (hbefore : ∀ m < k, (source.event (n + m)).isEnd = false) (hk : k ≤ resumptions) :
    (source.place n).events resumptions =
      ((List.range (k + 1)).map fun m => source.event (n + m), source.place (n + k + 1)) := by
  induction k generalizing n resumptions with
  | zero => exact (Scanner.events_of_isEnd hend).trans (by rw [← place_succ]; rfl)
  | succ k ih =>
    -- a fault uses a resumption up, a token does not; there are enough of them either way
    obtain ⟨r, rfl⟩ : ∃ r, resumptions = r + 1 := ⟨resumptions - 1, by omega⟩
    obtain ⟨r', hr', hevents⟩ := Scanner.exists_events_succ (s := source.place n)
      (hbefore 0 k.succ_pos) r
    have hnext : ∀ m, n + 1 + m = n + (m + 1) := fun m => by omega
    have htail := ih (n := n + 1) (by rwa [hnext]) (fun m hm => by
      rw [hnext]
      exact hbefore (m + 1) (Nat.succ_lt_succ hm)) ((Nat.le_of_succ_le_succ hk).trans hr')
    rw [hevents, ← place_succ, htail, List.range_succ_eq_map (n := k + 1), List.map_cons,
      List.map_map]
    simp only [hnext, Function.comp_def]
    rfl

/-- **The scanner gets on, also behind faults.**  Behind any number of events of a text, tokens
or faults, the next one is the end, with all of the text taken, or takes more of it; the line and
the column are always those of the offset; what is reported stands in what is taken with it, behind
all that was reported before; and the end is reached after no more other events than the text has
characters. -/
theorem scanning_advances (source : Source) : (∀ n, source.Advances n) ∧
    ∃ k ≤ source.text.length, (source.event k).isEnd = true ∧
      (∀ m < k, (source.event m).isEnd = false) ∧
      ∀ resumptions, k ≤ resumptions → (Scanner.ofSource source).events resumptions =
        ((List.range (k + 1)).map source.event, source.place (k + 1)) := by
  refine ⟨source.advances, ?_⟩
  classical
  obtain ⟨k, hk, hend⟩ := source.exists_isEnd
  have hexists : ∃ k, (source.event k).isEnd = true := ⟨k, hend⟩
  have hfirst := Nat.find_spec hexists
  have hbefore : ∀ m < Nat.find hexists, (source.event m).isEnd = false := fun m hm =>
    Bool.eq_false_iff.2 (Nat.find_min hexists hm)
  refine ⟨_, (Nat.find_min' hexists hend).trans hk, hfirst, hbefore, fun resumptions hle => ?_⟩
  have hevents := source.events_place (n := 0) (by rwa [Nat.zero_add])
    (fun m hm => by rw [Nat.zero_add]; exact hbefore m hm) hle
  simp only [Nat.zero_add] at hevents
  exact hevents

end Source

end Scriptlet
