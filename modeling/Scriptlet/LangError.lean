import Scriptlet.Position
import Scriptlet.ValueType

/-!
# Errors of the language

An error has a cause and a place. The cause decides the code (`E0xx` for the text, `E1xx` for its
structure, `E4xx` for its evaluation), the message and the hints; the place decides what of the
program is shown beneath the message.
-/

namespace Scriptlet

/-- Why a program is in error. -/
inductive Cause where
  /-- No token starts with this character. -/
  | unexpectedCharacter (char : String)
  /-- A string runs into the end of its line or of the text. -/
  | unterminatedString
  /-- A block comment runs into the end of the text. -/
  | unterminatedComment
  /-- A backslash in a string is not followed by a character that it can stand before. -/
  | invalidEscape (char : String)
  /-- Another token stands where this was expected. -/
  | expected (what : String)
  /-- The tokens end where this was expected. -/
  | unexpectedEnd (what : String)
  /-- An operator token holds a symbol that is no operator. -/
  | unknownOperator (symbol : String)
  /-- A name has no binding. -/
  | undefinedVariable (name : String)
  /-- A called name has no binding. -/
  | undefinedFunction (name : String)
  /-- A called name is bound to a value of this type, which is no function. -/
  | notCallable (name : String) (got : Option ValueType)
  /-- An operation does not take values of these types. -/
  | typeMismatch (operation accepted : String) (got : List ValueType)
  /-- A division by zero. -/
  | divisionByZero
  /-- A function is called with a wrong number of arguments. -/
  | arityMismatch (name : String) (arity got : Int)
  /-- An annotation names no type. -/
  | unknownType (name : String)
  /-- A `return` outside any call. -/
  | returnOutsideFunction
  /-- An expression that has no value. -/
  | invalidExpression (found : String)
  /-- A handle to a built-in function that is not registered. -/
  | unknownBuiltin (name : String)
  /-- More calls are nested than the settings allow. -/
  | callDepthExceeded (limit : Int)
  /-- An assertion of the program does not hold. -/
  | assertionFailed
  /-- A built-in function cannot use its argument. -/
  | invalidArgument (function detail : String)
deriving DecidableEq, Repr

namespace Cause

/-- The code that identifies the kind of error. -/
def code : Cause → String
  | unexpectedCharacter _ => "E001"
  | unterminatedString => "E002"
  | unterminatedComment => "E004"
  | invalidEscape _ => "E005"
  | expected _ => "E101"
  | unexpectedEnd _ => "E102"
  | unknownOperator _ => "E103"
  | undefinedVariable _ => "E401"
  | undefinedFunction _ => "E402"
  | notCallable .. => "E403"
  | typeMismatch .. => "E404"
  | divisionByZero => "E405"
  | arityMismatch .. => "E406"
  | unknownType _ => "E407"
  | returnOutsideFunction => "E408"
  | invalidExpression _ => "E409"
  | unknownBuiltin _ => "E410"
  | callDepthExceeded _ => "E411"
  | assertionFailed => "E412"
  | invalidArgument .. => "E413"

/-- What is said of the error. -/
def message : Cause → String
  | unexpectedCharacter char => "unexpected character '" ++ char ++ "'"
  | unterminatedString => "unterminated string literal"
  | unterminatedComment => "unterminated multi-line comment (expected closing */)"
  | invalidEscape char => "invalid escape sequence '\\" ++ char ++ "'"
  | expected what => "expected " ++ what
  | unexpectedEnd what => "unexpected end of input, expected " ++ what
  | unknownOperator symbol => "unknown operator '" ++ symbol ++ "'"
  | undefinedVariable name => "undefined variable '" ++ name ++ "'"
  | undefinedFunction name => "undefined function '" ++ name ++ "'"
  | notCallable name none => "'" ++ name ++ "' is not callable"
  | notCallable name (some got) =>
    "'" ++ name ++ "' is not callable (bound to a value of type '" ++ got.name ++ "')"
  | typeMismatch operation accepted got =>
    "incompatible types for " ++ operation ++ ": expected " ++ accepted ++ ", found (" ++
      ", ".intercalate (got.map ValueType.name) ++ ")"
  | divisionByZero => "division by zero"
  | arityMismatch name arity got =>
    "'" ++ name ++ "' expects " ++ toString arity ++ " argument(s), got " ++ toString got
  | unknownType name => "invalid type name '" ++ name ++ "'"
  | returnOutsideFunction => "'return' outside of a function"
  | invalidExpression found => "invalid expression '" ++ found ++ "'"
  | unknownBuiltin name => "unknown built-in function '" ++ name ++ "'"
  | callDepthExceeded limit => "maximum call depth of " ++ toString limit ++ " exceeded"
  | assertionFailed => "assertion failed"
  | invalidArgument function detail => "invalid argument to '" ++ function ++ "': " ++ detail

/-- What may help to mend the program. -/
def hints : Cause → List String
  | unterminatedString => ["string literals must be closed with matching quotes"]
  | invalidEscape _ => ["valid escape sequences: \\n, \\t, \\r, \\\", \\', \\\\, \\0"]
  | unknownOperator _ => ["supported operators: + - * / == != :="]
  | unknownType _ => ["known types: int, string, bool, _none"]
  | invalidExpression _ => ["set MINILANG_PERMISSIVE_LEAVES=1 to evaluate such leaves to Nothing"]
  | callDepthExceeded _ => ["raise MINILANG_MAX_CALL_DEPTH if the recursion is intended"]
  | _ => []

end Cause

/-- Where a diagnostic points, and the line of the program that it shows. -/
structure Place where
  /-- The stretch of the program that the diagnostic is about. -/
  span : Option Span := none
  /-- The line of the program that is shown. -/
  line : Option String := none
deriving DecidableEq, Repr

/-- A place that shows the line of the program its span starts in, if it does not yet show one. -/
def Place.attach (p : Place) (text : String) : Place :=
  match p.span, p.line with
  | some span, none => { p with line := lineAt? text span.start.line }
  | _, _ => p

/-- An error of the language. -/
structure LangError where
  /-- What is wrong. -/
  cause : Cause
  /-- Where it is wrong. -/
  place : Place := {}
deriving DecidableEq, Repr

namespace LangError

/-- An error at a span whose line is not yet known. -/
def located (cause : Cause) (span : Option Span) : LangError := ⟨cause, ⟨span, none⟩⟩

/-- The error with the line of the program that it points at. -/
def attach (e : LangError) (text : String) : LangError := { e with place := e.place.attach text }

/-- The code of the error. -/
def code (e : LangError) : String := e.cause.code

/-- The message of the error. -/
def message (e : LangError) : String := e.cause.message

/-- The span that the error points at. -/
def span (e : LangError) : Option Span := e.place.span

@[simp] theorem cause_attach (e : LangError) (text : String) :
    (e.attach text).cause = e.cause := rfl

@[simp] theorem span_attach (e : LangError) (text : String) : (e.attach text).span = e.span := by
  unfold attach span Place.attach
  split <;> rfl

/-- The line is looked up once: a place that shows one keeps it. -/
theorem attach_attach (e : LangError) (text other : String)
    (h : (e.attach text).place.line ≠ none) : (e.attach text).attach other = e.attach text := by
  generalize e.attach text = e' at *
  obtain ⟨cause, span, line⟩ := e'
  cases span <;> cases line <;> simp_all [attach, Place.attach]

end LangError

end Scriptlet
