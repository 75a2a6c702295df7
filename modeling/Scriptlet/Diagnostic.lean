import Scriptlet.LangError

/-!
# Diagnostics

A diagnostic is what a user sees of an error: a header with the place, the code and the message,
the line of the program with the place underlined, and the hints.
-/

namespace Scriptlet

/-- What is shown of an error. -/
structure Diagnostic where
  /-- The code of the error. -/
  code : String
  /-- What is said of it. -/
  message : String
  /-- Where it points. -/
  place : Place := {}
  /-- What may help. -/
  hints : List String := []
deriving DecidableEq, Repr

/-- The diagnostic of an error. -/
def LangError.toDiagnostic (e : LangError) : Diagnostic :=
  ⟨e.code, e.message, e.place, e.cause.hints⟩

namespace Diagnostic

/-- A text set flush right in a field of the given width. -/
def flushRight (width : Nat) (s : String) : String :=
  String.ofList (List.replicate (width - s.length) ' ') ++ s

/-- The header line. -/
def header (d : Diagnostic) : String :=
  let plain := "error[" ++ d.code ++ "]: " ++ d.message
  match d.place.span with
  | none => plain
  | some span => span.startText ++ ": " ++ plain

/-- How many characters of the line are underlined: up to the end of the span if it ends in the
line that it starts in, up to the end of the line otherwise, and never less than one. -/
def underlineLength (span : Span) (line : String) : Nat :=
  let stop := if span.start.line = span.stop.line then span.stop.column else line.length + 1
  max 1 (stop - span.start.column)

/-- The line that underlines the place. -/
def underline (span : Span) (line : String) : String :=
  "    | " ++ String.ofList (List.replicate (span.start.column - 1) ' ' ++
    List.replicate (underlineLength span line) '^')

/-- The line of the program and the line that underlines the place in it. -/
def excerpt (d : Diagnostic) : List String :=
  match d.place.span, d.place.line with
  | some span, some line =>
    ["  |", flushRight 3 (toString span.start.line) ++ " | " ++ line, underline span line]
  | _, _ => []

/-- The diagnostic as text, with the line of the program or without it. -/
def render (d : Diagnostic) (showSource : Bool := true) : String :=
  let shown := if showSource then d.excerpt else []
  "\n".intercalate (d.header :: shown ++ d.hints.map ("    = hint: " ++ ·))

/-- The diagnostic with the line of the program that it points at. -/
def attach (d : Diagnostic) (text : String) : Diagnostic :=
  { d with place := d.place.attach text }

end Diagnostic

/-- The error as text. -/
def LangError.render (e : LangError) : String := e.toDiagnostic.render

end Scriptlet
