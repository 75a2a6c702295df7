import Scriptlet.Failure
import Scriptlet.Token.Gap
import Scriptlet.Token.Lexeme

/-!
# The tokens of a text

A `Scanner` is a place in a text from which tokens are read one by one. It can be asked again
after a fault: it then goes on behind what it could not read. Each step but the last shortens the
text that is left (`length_rest_next_lt`), so the end of the text is always reached.
-/

namespace Scriptlet.Token

/-- A place in a text from which tokens are read. -/
structure Scanner where
  /-- The text as a whole. -/
  source : Source
  /-- Where in the text reading goes on. -/
  position : Position
  /-- The text from there on. -/
  rest : List Char
  /-- The kind of the token read last. -/
  before : Option Kind
deriving DecidableEq, Repr

/-- What reading on from some place gives. -/
inductive Event where
  /-- A token; at the end of the text, one of kind `eof`. -/
  | token (t : Token)
  /-- An error of the language. -/
  | error (e : LangError)
  /-- An integer literal that is too long. -/
  | tooLong (reason : Numeral.TooLong)
deriving DecidableEq, Repr

/-- Whether the end of the text was reached. -/
def Event.isEnd : Event → Bool
  | .token t => t.kind == .eof
  | _ => false

/-- How much of the text read is not part of what the fault is about. -/
def Fault.lead (text : List Char) : Fault → List Char
  | .invalidEscape (some _) => text.dropLast
  | .invalidEscape none => text
  | _ => []

/-- The event that reports a fault of the text read, which starts at a given position. -/
def Fault.report (f : Fault) (source : Source) (start : Position) (text : List Char) : Event :=
  let span : Span := ⟨start.advance (f.lead text), start.advance text, source.file⟩
  let error (cause : Cause) : Event :=
    .error ((LangError.located cause (some span)).attach source.text)
  match f with
  | .unexpectedCharacter c => error (.unexpectedCharacter (String.singleton c))
  | .unterminatedString => error .unterminatedString
  | .invalidEscape (some c) => error (.invalidEscape (String.singleton c))
  | .invalidEscape none => error (.invalidEscape "")
  | .tooLong reason => .tooLong reason

namespace Scanner

/-- The start of a text. -/
def ofSource (source : Source) : Scanner := ⟨source, .start, source.text.toList, none⟩

/-- Reads on: the next event, and the place behind it. -/
def next (s : Scanner) : Event × Scanner :=
  let gap := skipGap s.rest
  let start := s.position.advance gap.skipped
  if gap.closed then
    match gap.rest with
    | [] =>
      (.token { kind := .eof, span := some ⟨start, start, s.source.file⟩ },
        { s with position := start, rest := [], before := some .eof })
    | c :: cs =>
      let lexeme := readLexeme s.before c cs
      let stop := start.advance lexeme.text
      let behind : Scanner := { s with position := stop, rest := lexeme.rest }
      match lexeme.found with
      | .ok (kind, payload) =>
        (.token ⟨kind, payload, String.ofList lexeme.text, some ⟨start, stop, s.source.file⟩⟩,
          { behind with before := some kind })
      | .error fault => (fault.report s.source start lexeme.text, behind)
  else
    let stop := start.advance gap.rest
    let span : Span := ⟨start, stop, s.source.file⟩
    (.error ((LangError.located .unterminatedComment (some span)).attach s.source.text),
      { s with position := stop, rest := [] })

/-- Unless the end is reached, reading on shortens the text that is left. -/
theorem length_rest_next_lt {s : Scanner} (h : s.next.1.isEnd = false) :
    s.next.2.rest.length < s.rest.length := by
  have gap := length_rest_skipGap_le s.rest
  by_cases closed : (skipGap s.rest).closed = true
  · rcases rest : (skipGap s.rest).rest with _ | ⟨c, cs⟩
    · simp [next, closed, rest, Event.isEnd] at h
    · have := length_rest_readLexeme_lt s.before c cs
      rw [rest] at gap
      simp only [next, closed, rest, if_true]
      split <;> exact Nat.lt_of_lt_of_le this gap
  · have := List.length_pos_iff.2 (rest_ne_nil_of_not_closed (by simpa using closed))
    simp only [next, closed, Bool.false_eq_true, if_false, List.length_nil]
    omega

/-- The tokens from a place on, up to the end of the text, unless there is a fault. -/
def tokens (s : Scanner) : Except Failure (List Token) :=
  match _event : s.next.1 with
  | .token t =>
    if _eof : t.kind = .eof then .ok [t]
    else do
      let rest ← tokens s.next.2
      return t :: rest
  | .error e => .error (.language e)
  | .tooLong reason => .error (.tooLong reason)
termination_by s.rest.length
decreasing_by exact length_rest_next_lt (by simp [_event, Event.isEnd, _eof])

/-- The events from a place on, going on behind a fault as often as is said, and the place where
that ends. -/
def events (s : Scanner) (resumptions : Nat) : List Event × Scanner :=
  if _last : s.next.1.isEnd then ([s.next.1], s.next.2)
  else
    let onward (left : Nat) : List Event × Scanner :=
      let (rest, last) := events s.next.2 left
      (s.next.1 :: rest, last)
    match s.next.1, resumptions with
    | .token _, left => onward left
    | _, left + 1 => onward left
    | event, 0 => ([event], s.next.2)
termination_by s.rest.length
decreasing_by exact length_rest_next_lt (by simpa using _last)

end Scanner

end Scriptlet.Token

namespace Scriptlet.Source

/-- The tokens of a text, the last one of kind `eof`. -/
def tokens (source : Source) : Except Failure (List Token) := (Token.Scanner.ofSource source).tokens

end Scriptlet.Source
