import Scriptlet.Position
import Scriptlet.Text.Quoted

/-!
# Tokens

A token is a piece of a program: its kind, what it carries, the text that it was read from and
where that text stands. Two tokens say the same if kind and payload agree; text and place serve
diagnostics only, and tokens that were not read from a text have neither.
-/

namespace Scriptlet

/-- The kinds of tokens. -/
inductive Token.Kind where
  /-- An integer literal, perhaps with a minus sign. -/
  | intLiteral
  /-- A string literal. -/
  | stringLiteral
  /-- `true` or `false`. -/
  | boolLiteral
  /-- A name. -/
  | identifier
  /-- One of `+ - * / == !=`. -/
  | operator
  /-- One of `int string bool _none`. -/
  | typeName
  /-- `func` -/
  | func
  /-- `return` -/
  | ret
  /-- `:=` -/
  | assign
  /-- `->` -/
  | arrow
  /-- `(` -/
  | leftParen
  /-- `)` -/
  | rightParen
  /-- `{` -/
  | leftBrace
  /-- `}` -/
  | rightBrace
  /-- `,` -/
  | comma
  /-- `;` -/
  | semicolon
  /-- The stand-in, in a tree, for a token that starts no expression. -/
  | error
  /-- The end of the tokens. -/
  | eof
deriving DecidableEq, Repr, Inhabited

namespace Token.Kind

/-- All kinds, in the order of their declaration. -/
def all : List Kind :=
  [intLiteral, stringLiteral, boolLiteral, identifier, operator, typeName, func, ret, assign, arrow,
    leftParen, rightParen, leftBrace, rightBrace, comma, semicolon, error, eof]

/-- The name that token listings and tree dumps use. -/
def name : Kind → String
  | intLiteral => "INT_LITERAL"
  | stringLiteral => "STRING_LITERAL"
  | boolLiteral => "BOOL_LITERAL"
  | identifier => "IDENTIFIER"
  | operator => "OPERATOR"
  | typeName => "TYPE"
  | func => "FUNC"
  | ret => "RETURN"
  | assign => "SET_VAL"
  | arrow => "RETURN_TYPE"
  | leftParen => "LPAREN"
  | rightParen => "RPAREN"
  | leftBrace => "LBRACE"
  | rightBrace => "RBRACE"
  | comma => "COMMA"
  | semicolon => "SEMICOLON"
  | error => "ERROR"
  | eof => "EOF"

/-- The kind of a given name. -/
def ofName? (s : String) : Option Kind := all.find? (·.name = s)

theorem mem_all (k : Kind) : k ∈ all := by cases k <;> decide

/-- After a token of one of these kinds an operand is due, so a minus sign before a digit belongs
to a literal. -/
def precedesOperand : Kind → Bool
  | operator | assign | leftParen | comma | semicolon | leftBrace | rightBrace | ret | arrow => true
  | _ => false

end Token.Kind

/-- What a token carries besides its kind. -/
inductive Token.Payload where
  /-- Nothing. -/
  | absent
  /-- A text: the value of a string literal, a name, a symbol. -/
  | text (s : String)
  /-- The value of an integer literal. -/
  | int (n : Int)
  /-- The value of a truth literal. -/
  | bool (b : Bool)
deriving DecidableEq, Repr, Inhabited

namespace Token.Payload

/-- The payload as plain text. -/
def display : Payload → String
  | absent => "None"
  | text s => s
  | int n => toString n
  | bool true => "True"
  | bool false => "False"

/-- The payload as text, between quotes if it is a text itself. -/
def quoted : Payload → String
  | text s => Text.quoted s
  | p => p.display

/-- The payload as a truth value: nothing, zero and the empty text are false. -/
def truth : Payload → Bool
  | absent => false
  | text s => !s.isEmpty
  | int n => n != 0
  | bool b => b

end Token.Payload

/-- A token. -/
structure Token where
  /-- Its kind. -/
  kind : Token.Kind
  /-- What it carries. -/
  payload : Token.Payload := .absent
  /-- The text that it was read from, empty if there is none. -/
  lexeme : String := ""
  /-- Where that text stands. -/
  span : Option Span := none
deriving DecidableEq, Repr, Inhabited

namespace Token

/-- An integer literal. -/
def ofInt (n : Int) : Token := { kind := .intLiteral, payload := .int n, lexeme := toString n }

/-- A string literal. -/
def ofString (s : String) : Token :=
  { kind := .stringLiteral, payload := .text s, lexeme := Text.quoted s }

/-- A truth literal. -/
def ofBool (b : Bool) : Token :=
  { kind := .boolLiteral, payload := .bool b, lexeme := if b then "true" else "false" }

/-- A token that carries the text it is written as. -/
def ofText (kind : Kind) (s : String) : Token := { kind, payload := .text s, lexeme := s }

/-- The token as printed programs, token listings and tree dumps show it. -/
def text (t : Token) : String :=
  match t.kind with
  | .stringLiteral => t.payload.quoted
  | .boolLiteral => if t.payload.truth then "true" else "false"
  | .intLiteral | .identifier | .operator | .typeName => t.payload.display
  | kind => if t.lexeme.isEmpty then kind.name else t.lexeme

/-- Whether two tokens say the same. -/
def same (s t : Token) : Bool := s.kind = t.kind && s.payload = t.payload

/-- What a token says, without its text and its place. -/
def bare (t : Token) : Token := { kind := t.kind, payload := t.payload }

theorem same_iff {s t : Token} : s.same t = true ↔ s.bare = t.bare := by
  simp [same, bare]

/-- The stand-in for a token that starts no expression: all but the kind is kept. -/
def asError (t : Token) : Token := { t with kind := .error }

end Token

end Scriptlet
