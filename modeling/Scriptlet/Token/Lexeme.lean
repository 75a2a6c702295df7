import Scriptlet.Token
import Scriptlet.Token.StringBody
import Scriptlet.Numeral
import Scriptlet.Text.Letter

/-!
# Lexemes

`readLexeme` reads one token off a text that starts with no gap. It splits the text in any case,
also when what it reads is no token (`text_append_rest_readLexeme`), and it always reads something
(`text_ne_nil_readLexeme`), so reading can go on behind a fault.
-/

namespace Scriptlet.Token

/-- Why a text starts with no token. -/
inductive Fault where
  /-- No token starts with this character. -/
  | unexpectedCharacter (c : Char)
  /-- A string is not closed in its line. -/
  | unterminatedString
  /-- A backslash in a string makes no escape with the character behind it, if there is one. -/
  | invalidEscape (c : Option Char)
  /-- An integer literal is too long. -/
  | tooLong (reason : Numeral.TooLong)
deriving DecidableEq, Repr

/-- What stands at the start of a text. -/
structure Lexeme where
  /-- The text that was read. -/
  text : List Char
  /-- The text that follows. -/
  rest : List Char
  /-- The kind and the payload of the token, or why there is none. -/
  found : Except Fault (Kind × Payload)

/-- The kind and the payload of a word. -/
def classifyWord (word : String) : Kind × Payload :=
  if word = "func" then (.func, .text word)
  else if word = "return" then (.ret, .text word)
  else if word = "true" then (.boolLiteral, .bool true)
  else if word = "false" then (.boolLiteral, .bool false)
  else if word = "int" ∨ word = "string" ∨ word = "bool" ∨ word = "_none" then
    (.typeName, .text word)
  else (.identifier, .text word)

/-- The kind of a token that is a single character. -/
def symbolKind? : Char → Option Kind
  | '+' | '-' | '*' | '/' => some .operator
  | '(' => some .leftParen
  | ')' => some .rightParen
  | '{' => some .leftBrace
  | '}' => some .rightBrace
  | ',' => some .comma
  | ';' => some .semicolon
  | _ => none

/-- Whether a minus sign before a digit belongs to a literal, given the kind of the token before. -/
def operandDue : Option Kind → Bool
  | none => true
  | some k => k.precedesOperand

/-- The value of an ASCII digit. -/
def asciiDigitValue (c : Char) : Nat := c.toNat - '0'.toNat

/-- Reads the digits of an integer literal whose sign was read already. -/
def readNumber (negative : Bool) (cs : List Char) : Lexeme :=
  let digits := cs.takeWhile Char.isDigit
  { text := (if negative then ['-'] else []) ++ digits
    rest := cs.dropWhile Char.isDigit
    found := match Numeral.ofSignAndDigits negative (digits.map asciiDigitValue) with
      | .ok n => .ok (.intLiteral, .int n)
      | .error reason => .error (.tooLong reason) }

/-- Reads a name, a keyword, a truth literal or the name of a type. -/
def readWord (cs : List Char) : Lexeme :=
  let word := cs.takeWhile Text.isWord
  { text := word, rest := cs.dropWhile Text.isWord
    found := .ok (classifyWord (String.ofList word)) }

/-- Reads a string literal behind its opening quote. -/
def readString (q : Char) (cs : List Char) : Lexeme :=
  let body := readStringBody q cs
  { text := q :: body.text
    rest := body.rest
    found := match body.ending with
      | .closed => .ok (.stringLiteral, .text (String.ofList body.value))
      | .unclosed => .error .unterminatedString
      | .badEscape c => .error (.invalidEscape c) }

/-- A symbol that was read. -/
def symbol (kind : Kind) (text rest : List Char) : Lexeme :=
  ⟨text, rest, .ok (kind, .text (String.ofList text))⟩

/-- Reads a symbol of a single character. -/
def readSingle (c : Char) (cs : List Char) : Lexeme :=
  match symbolKind? c with
  | some kind => symbol kind [c] cs
  | none => ⟨[c], cs, .error (.unexpectedCharacter c)⟩

/-- Reads a symbol, or an integer literal with a minus sign. -/
def readSymbol (before : Option Kind) (c : Char) (cs : List Char) : Lexeme :=
  match c, cs with
  | '-', '>' :: rest => symbol .arrow ['-', '>'] rest
  | ':', '=' :: rest => symbol .assign [':', '='] rest
  | '=', '=' :: rest => symbol .operator ['=', '='] rest
  | '!', '=' :: rest => symbol .operator ['!', '='] rest
  | '-', d :: rest =>
    if d.isDigit && operandDue before then readNumber true (d :: rest)
    else readSingle '-' (d :: rest)
  | c, cs => readSingle c cs

/-- Reads the token that a text starts with, given the kind of the token before. -/
def readLexeme (before : Option Kind) (c : Char) (cs : List Char) : Lexeme :=
  if c = '"' ∨ c = '\'' then readString c cs
  else if c.isDigit then readNumber false (c :: cs)
  else if Text.startsWord c then readWord (c :: cs)
  else readSymbol before c cs

/-! ## What is read and what is left -/

theorem text_append_rest_readNumber (negative : Bool) (cs : List Char) :
    (readNumber negative cs).text ++ (readNumber negative cs).rest =
      (if negative then ['-'] else []) ++ cs := by
  simp [readNumber]

theorem text_append_rest_readSingle (c : Char) (cs : List Char) :
    (readSingle c cs).text ++ (readSingle c cs).rest = c :: cs := by
  unfold readSingle
  split <;> rfl

theorem text_append_rest_readSymbol (before : Option Kind) (c : Char) (cs : List Char) :
    (readSymbol before c cs).text ++ (readSymbol before c cs).rest = c :: cs := by
  unfold readSymbol
  split
  · rfl
  · rfl
  · rfl
  · rfl
  · split
    · simp [text_append_rest_readNumber]
    · exact text_append_rest_readSingle _ _
  · exact text_append_rest_readSingle _ _

theorem text_append_rest_readLexeme (before : Option Kind) (c : Char) (cs : List Char) :
    (readLexeme before c cs).text ++ (readLexeme before c cs).rest = c :: cs := by
  unfold readLexeme
  split
  · simp [readString, text_append_rest]
  · split
    · simp [text_append_rest_readNumber]
    · split
      · simp [readWord]
      · exact text_append_rest_readSymbol before c cs

theorem text_ne_nil_readSingle (c : Char) (cs : List Char) : (readSingle c cs).text ≠ [] := by
  unfold readSingle
  split <;> simp [symbol]

theorem text_ne_nil_readSymbol (before : Option Kind) (c : Char) (cs : List Char) :
    (readSymbol before c cs).text ≠ [] := by
  unfold readSymbol
  split
  · simp [symbol]
  · simp [symbol]
  · simp [symbol]
  · simp [symbol]
  · split
    · simp [readNumber]
    · exact text_ne_nil_readSingle _ _
  · exact text_ne_nil_readSingle _ _

theorem text_ne_nil_readLexeme (before : Option Kind) (c : Char) (cs : List Char) :
    (readLexeme before c cs).text ≠ [] := by
  unfold readLexeme
  split
  · simp [readString]
  · split
    · rename_i h
      simp [readNumber, h]
    · split
      · rename_i h
        simp [readWord, Text.isWord_of_startsWord h]
      · exact text_ne_nil_readSymbol before c cs

theorem length_rest_readLexeme_lt (before : Option Kind) (c : Char) (cs : List Char) :
    (readLexeme before c cs).rest.length < (c :: cs).length := by
  have split := congrArg List.length (text_append_rest_readLexeme before c cs)
  have some := List.length_pos_iff.2 (text_ne_nil_readLexeme before c cs)
  simp only [List.length_append] at split
  omega

end Scriptlet.Token
