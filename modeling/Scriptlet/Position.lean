import Scriptlet.Text.Line

/-!
# Places in a program text

A position counts characters. Its line goes up at line feeds only, whatever other line breaks the
text holds; the lines that diagnostics show are those of `Text.lines`, which knows more line
breaks.
-/

namespace Scriptlet

/-- A position in a text: where the character after it stands. -/
structure Position where
  /-- The line, counted from 1. -/
  line : Nat
  /-- The column, counted from 1. -/
  column : Nat
  /-- The number of characters before the position. -/
  offset : Nat
deriving DecidableEq, Repr, Inhabited

namespace Position

/-- The position before the first character. -/
def start : Position := ⟨1, 1, 0⟩

/-- The position behind a character. -/
def next (p : Position) (c : Char) : Position :=
  if c = '\n' then ⟨p.line + 1, 1, p.offset + 1⟩ else ⟨p.line, p.column + 1, p.offset + 1⟩

/-- The position behind a stretch of text. -/
def advance (p : Position) (cs : List Char) : Position := cs.foldl next p

@[simp] theorem advance_nil (p : Position) : p.advance [] = p := rfl

@[simp] theorem advance_cons (p : Position) (c : Char) (cs : List Char) :
    p.advance (c :: cs) = (p.next c).advance cs := rfl

theorem advance_append (p : Position) (xs ys : List Char) :
    p.advance (xs ++ ys) = (p.advance xs).advance ys := List.foldl_append

@[simp] theorem offset_next (p : Position) (c : Char) : (p.next c).offset = p.offset + 1 := by
  unfold next
  split <;> rfl

@[simp] theorem offset_advance (p : Position) (cs : List Char) :
    (p.advance cs).offset = p.offset + cs.length := by
  induction cs generalizing p with
  | nil => rfl
  | cons c cs ih => simp [ih]; omega

end Position

/-- A stretch of a program text. -/
structure Span where
  /-- Where the stretch starts. -/
  start : Position
  /-- Where it ends: behind its last character. -/
  stop : Position
  /-- The file that the text comes from, if it has a name. -/
  file : Option String := none
deriving DecidableEq, Repr

namespace Span

/-- What stands before a position in diagnostics to name its file. -/
def fileLabel (s : Span) : String :=
  match s.file with
  | none => ""
  | some file => if file.isEmpty then "" else file ++ ":"

/-- The start of the span, as diagnostics write it. -/
def startText (s : Span) : String :=
  s.fileLabel ++ toString s.start.line ++ ":" ++ toString s.start.column

/-- The whole span, as diagnostics write it. -/
def text (s : Span) : String :=
  s.startText ++ "-" ++ toString s.stop.line ++ ":" ++ toString s.stop.column

/-- The span from the start of one to the end of another. -/
def cover (first last : Span) : Span := ⟨first.start, last.stop, first.file⟩

end Span

/-- A program text and the name of the file that it comes from. -/
structure Source where
  /-- The text. -/
  text : String
  /-- The name of its file. -/
  file : Option String := none
deriving DecidableEq, Repr

/-- A line of a text, counted from 1. -/
def lineAt? (text : String) (n : Nat) : Option String :=
  if n = 0 then none else (Text.lines text)[n - 1]?

end Scriptlet
