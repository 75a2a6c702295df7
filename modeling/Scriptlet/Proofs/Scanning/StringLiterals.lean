import Scriptlet.Proofs.Scanning.Faults
import Scriptlet.Proofs.Scanning.Locality
import Scriptlet.Proofs.Scanning.Tiling

/-!
# String literals

Behind an opening quote stands an encoding of some value, and then something that ends it: the
quote again, a backslash that makes no escape, or the end of the line or of the text.  Every text
splits so (`exists_ends`), and the scanner finds the split: it gives the value if the quote comes
first, and it tells a bad escape from a string that is never closed (`Scanner.next_string_exact`).
-/

namespace Scriptlet.Token

section

variable {q : Char} {ending : StringEnd} {text value written rest : List Char}

/-- An encoding goes on until something ends it. -/
theorem exists_ends (q : Char) (cs : List Char) :
    ∃ text value ending written rest, cs = text ++ (written ++ rest) ∧ Encodes q text value ∧
      Ends q ending written rest := by
  obtain ⟨text, written, htext, hencodes, hends⟩ := ends_readStringBody q cs
  refine ⟨text, _, _, written, _, ?_, hencodes, hends⟩
  rw [← List.append_assoc, ← htext, text_append_rest]

/-- Nothing is read beyond an ending. -/
lemma Ends.readStringBody (h : Ends q ending written rest) (hq : q = '\'' ∨ q = '"') :
    readStringBody q (written ++ rest) = ⟨written, [], rest, ending⟩ := by
  have hne : q ≠ '\\' ∧ '\n' ≠ q := by rcases hq with rfl | rfl <;> decide
  cases h with
  | quote rest => exact readStringBody_close hne.1 rest
  | unknown hc rest => exact readStringBody_badEscape (escapeValue?_eq_none_iff.2 hc) rest
  | backslash => rfl
  | line rest => exact readStringBody_line hne.2 rest
  | text => rfl

/-- An encoding is read as far as something ends it. -/
lemma readStringBody_of_ends (hencodes : Encodes q text value) (hends : Ends q ending written rest)
    (hq : q = '\'' ∨ q = '"') :
    readStringBody q (text ++ (written ++ rest)) = ⟨text ++ written, value, rest, ending⟩ := by
  rw [hencodes.readStringBody_append, hends.readStringBody hq, List.append_nil]

lemma Ends.eq_of_badEscape {x : Option Char} (h : Ends q (.badEscape x) written rest) :
    written = ['\\'] ++ x.toList := by
  cases h <;> rfl

end

/-! ## Faults in strings -/

section

variable (source : Source) (done read : List Char)

/-- A string that is not closed is reported from its quote on. -/
lemma report_unterminated :
    ∃ e : LangError, Fault.unterminatedString.report source (.behind done) read = .error e ∧
      e.code = "E002" ∧ e.span = some ⟨.behind done, .behind (done ++ read), source.file⟩ := by
  refine ⟨_, rfl, rfl, ?_⟩
  rw [LangError.span_attach, ← Position.advance_behind]
  rfl

/-- A bad escape is reported behind its backslash. -/
lemma report_badEscape (x : Option Char) :
    ∃ e : LangError,
      (Fault.invalidEscape x).report source (.behind done) (read ++ x.toList) = .error e ∧
      e.code = "E005" ∧ e.span = some ⟨.behind (done ++ read),
        .behind (done ++ (read ++ x.toList)), source.file⟩ := by
  have hreport : ∃ text, (Fault.invalidEscape x).report source (.behind done) (read ++ x.toList) =
      .error ((LangError.located (.invalidEscape text) (some ⟨.behind (done ++ read),
        .behind (done ++ (read ++ x.toList)), source.file⟩)).attach source.text) := by
    simp only [Fault.report, lead_invalidEscape, Position.advance_behind]
    cases x <;> exact ⟨_, rfl⟩
  obtain ⟨text, hreport⟩ := hreport
  exact ⟨_, hreport, rfl, LangError.span_attach _ _⟩

end

namespace Scanner

section

variable {s : Scanner} {done read rest : List Char} {q : Char}

lemma next_of_quote {cs : List Char} (h : s.Behind done) (hq : q = '\'' ∨ q = '"')
    (hs : s.rest = q :: cs) {k : Kind} {p : Payload}
    (hread : readString q cs = ⟨read, rest, .ok (k, p)⟩) :
    s.next = (.token ⟨k, p, String.ofList read,
        some ⟨.behind done, .behind (done ++ read), s.source.file⟩⟩,
      ⟨s.source, .behind (done ++ read), rest, some k⟩) := by
  have hgap : skipGap s.rest = ⟨[], q :: cs, true⟩ := by rw [hs, skipGap_quote hq]
  have hlexeme := readLexeme_quote hq s.before cs
  rw [hread] at hlexeme
  have hnext := next_lexeme h (by rw [hgap]) (by rw [hgap]) (by rw [hlexeme])
  simpa only [hgap, hlexeme, List.append_nil] using hnext

lemma next_of_quote_fault {cs : List Char} (h : s.Behind done) (hq : q = '\'' ∨ q = '"')
    (hs : s.rest = q :: cs) {fault : Fault} (hread : readString q cs = ⟨read, rest, .error fault⟩) :
    s.next = (fault.report s.source (.behind done) read,
      ⟨s.source, .behind (done ++ read), rest, s.before⟩) := by
  have hgap : skipGap s.rest = ⟨[], q :: cs, true⟩ := by rw [hs, skipGap_quote hq]
  have hlexeme := readLexeme_quote hq s.before cs
  rw [hread] at hlexeme
  have hnext := next_fault h (by rw [hgap]) (by rw [hgap]) (by rw [hlexeme])
  simpa only [hgap, hlexeme, List.append_nil] using hnext

variable {text value written : List Char}

/-- A string literal has the value that it encodes. -/
lemma next_of_encodes {v : String} (h : s.Behind done) (hq : q = '\'' ∨ q = '"')
    (hs : s.rest = q :: (text ++ q :: rest)) (hencodes : Encodes q text v.toList) :
    let read := q :: (text ++ [q])
    s.next = (.token ⟨.stringLiteral, .text v, String.ofList read,
        some ⟨.behind done, .behind (done ++ read), s.source.file⟩⟩,
      ⟨s.source, .behind (done ++ read), rest, some .stringLiteral⟩) := by
  have hne : q ≠ '\\' := by rcases hq with rfl | rfl <;> decide
  refine next_of_quote h hq hs ?_
  rw [readString, hencodes.readStringBody hne, String.ofList_toList]

/-- A backslash that makes no escape is an error. -/
lemma next_of_badEscape {x : Option Char} (h : s.Behind done) (hq : q = '\'' ∨ q = '"')
    (hs : s.rest = q :: (text ++ (written ++ rest))) (hencodes : Encodes q text value)
    (hends : Ends q (.badEscape x) written rest) :
    let read := q :: (text ++ written)
    ∃ e : LangError, s.next = (.error e, ⟨s.source, .behind (done ++ read), rest, s.before⟩) ∧
      e.code = "E005" ∧ e.span = some ⟨.behind (done ++ q :: (text ++ ['\\'])),
        .behind (done ++ read), s.source.file⟩ := by
  have hnext := next_of_quote_fault h hq hs
    (by rw [readString, readStringBody_of_ends hencodes hends hq])
  obtain rfl := hends.eq_of_badEscape
  rw [← List.append_assoc] at hnext ⊢
  obtain ⟨e, hreport, he⟩ := report_badEscape s.source done (q :: (text ++ ['\\'])) x
  exact ⟨e, hnext.trans (congrArg (·, _) hreport), he⟩

/-- So is the end of the line or of the text in a string. -/
lemma next_of_unclosed (h : s.Behind done) (hq : q = '\'' ∨ q = '"')
    (hs : s.rest = q :: (text ++ (written ++ rest))) (hencodes : Encodes q text value)
    (hends : Ends q .unclosed written rest) :
    let read := q :: (text ++ written)
    ∃ e : LangError, s.next = (.error e, ⟨s.source, .behind (done ++ read), rest, s.before⟩) ∧
      e.code = "E002" ∧
      e.span = some ⟨.behind done, .behind (done ++ read), s.source.file⟩ := by
  have hnext := next_of_quote_fault h hq hs
    (by rw [readString, readStringBody_of_ends hencodes hends hq])
  obtain ⟨e, hreport, he⟩ := report_unterminated s.source done (q :: (text ++ written))
  exact ⟨e, hnext.trans (congrArg (·, _) hreport), he⟩

end

/-- **A string literal is read by decoding it.**  Behind an opening quote, the text starts with an
encoding of some value, as far as something ends it.  If that is the quote again, then the literal
has this value, and nothing behind the quote is read with it; no other token is read.  A backslash
that makes no escape is an error, and so is the end of the line or of the text. -/
theorem next_string_exact {s : Scanner} {done cs : List Char} {q : Char} (h : s.Behind done)
    (hq : q = '\'' ∨ q = '"') (hs : s.rest = q :: cs) :
    (∃ text value ending written rest, cs = text ++ (written ++ rest) ∧ Encodes q text value ∧
      Ends q ending written rest) ∧
    (∀ text rest, ∀ v : String, cs = text ++ q :: rest → Encodes q text v.toList →
      let read := q :: (text ++ [q])
      s.next = (.token ⟨.stringLiteral, .text v, String.ofList read,
          some ⟨.behind done, .behind (done ++ read), s.source.file⟩⟩,
        ⟨s.source, .behind (done ++ read), rest, some .stringLiteral⟩)) ∧
    (∀ t, s.next.1 = .token t → ∃ text rest, ∃ v : String, cs = text ++ q :: rest ∧
      Encodes q text v.toList ∧ t.kind = .stringLiteral ∧ t.payload = .text v ∧
        t.lexeme.toList = q :: (text ++ [q])) ∧
    (∀ text value x written rest, cs = text ++ (written ++ rest) → Encodes q text value →
      Ends q (.badEscape x) written rest →
      let read := q :: (text ++ written)
      ∃ e : LangError, s.next = (.error e, ⟨s.source, .behind (done ++ read), rest, s.before⟩) ∧
        e.code = "E005" ∧ e.span = some ⟨.behind (done ++ q :: (text ++ ['\\'])),
          .behind (done ++ read), s.source.file⟩) ∧
    (∀ text value written rest, cs = text ++ (written ++ rest) → Encodes q text value →
      Ends q .unclosed written rest →
      let read := q :: (text ++ written)
      ∃ e : LangError, s.next = (.error e, ⟨s.source, .behind (done ++ read), rest, s.before⟩) ∧
        e.code = "E002" ∧
        e.span = some ⟨.behind done, .behind (done ++ read), s.source.file⟩) := by
  refine ⟨exists_ends q cs, ?_, fun t ht => ?_, ?_, ?_⟩
  · rintro text rest v rfl hencodes
    exact next_of_encodes h hq hs hencodes
  · -- the other two endings come to errors
    obtain ⟨text, value, ending, written, rest, rfl, hencodes, hends⟩ := exists_ends q cs
    cases ending with
    | closed =>
      cases hends with
      | quote =>
        rw [← String.toList_ofList (l := value)] at hencodes
        rw [next_of_encodes h hq hs hencodes] at ht
        cases ht
        exact ⟨text, rest, _, rfl, hencodes, rfl, rfl, String.toList_ofList⟩
    | unclosed =>
      obtain ⟨e, hnext, -⟩ := next_of_unclosed h hq hs hencodes hends
      rw [hnext] at ht
      cases ht
    | badEscape x =>
      obtain ⟨e, hnext, -⟩ := next_of_badEscape h hq hs hencodes hends
      rw [hnext] at ht
      cases ht
  · rintro text value x written rest rfl hencodes hends
    exact next_of_badEscape h hq hs hencodes hends
  · rintro text value written rest rfl hencodes hends
    exact next_of_unclosed h hq hs hencodes hends

/-- An escaped quote behind an escaped backslash closes nothing; the other quote, a carriage return
and a NUL stand for themselves. -/
theorem next_string_exact_escaped_quote :
    let source : Source := ⟨"x'\\\\\\'\"\r\x00' y", none⟩
    let s : Scanner := ⟨source, .behind ['x'], "'\\\\\\'\"\r\x00' y".toList, some .identifier⟩
    let text := "\\\\\\'\"\r\x00".toList
    s.Behind ['x'] ∧ Encodes '\'' text "\\'\"\r\x00".toList ∧
      s.next = (.token ⟨.stringLiteral, .text "\\'\"\r\x00", "'\\\\\\'\"\r\x00'",
          some ⟨⟨1, 2, 1⟩, ⟨1, 11, 10⟩, none⟩⟩,
        ⟨source, ⟨1, 11, 10⟩, [' ', 'y'], some .stringLiteral⟩) := by
  intro source s text
  have hs : s.Behind ['x'] := ⟨by decide, rfl⟩
  have hencodes : Encodes '\'' text "\\'\"\r\x00".toList :=
    .escape (by decide) (.escape (by decide) (.raw (by decide) (by decide) (by decide)
      (.raw (by decide) (by decide) (by decide) (.raw (by decide) (by decide) (by decide) .nil))))
  exact ⟨hs, hencodes, (next_string_exact hs (.inl rfl) rfl).2.1 text [' ', 'y'] _ rfl hencodes⟩

end Scanner

end Scriptlet.Token
