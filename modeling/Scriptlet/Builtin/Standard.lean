import Scriptlet.Builtin

/-!
# The built-in functions of the language

A program that does not change them has these six: `print`, `to_string`, `parse_int`, `len`,
`type_of` and `assert`.
-/

namespace Scriptlet.Builtin

/-- Gives a text, unless a numeral in it is too long. -/
def replyText (text : Except Numeral.TooLong String) : Reply :=
  { result := match text with
      | .ok s => .ok (.string s)
      | .error reason => .error (.tooLong reason) }

/-- Gives an integer that was read from a text. -/
def replyInt (raw : String) (read : Except Numeral.Unreadable Int) : Reply :=
  { result := match read with
      | .ok n => .ok (.int n)
      | .error .malformed => .error (.located
          (.invalidArgument "parse_int" (Text.quoted raw ++ " is not an integer")) none)
      | .error (.tooLong reason) => .error (.tooLong reason) }

/-- The reply to arguments that no call gets as far as handing over. -/
def unaccepted : Reply := { result := .error .missingArgument }

/-- Prints its arguments on a line, with spaces between them. -/
def print : Builtin where
  name := "print"
  returnType := .nothing
  variadic := true
  run args :=
    match args.mapM Value.display with
    | .ok texts => { printed := " ".intercalate texts ++ "\n", result := .ok .nothing }
    | .error reason => { result := .error (.tooLong reason) }

/-- Gives the text that would be printed for its argument. -/
def toText : Builtin where
  name := "to_string"
  returnType := .string
  params := [none]
  run
    | [v] => replyText v.display
    | _ => unaccepted

/-- Reads a text as an integer. -/
def parseInt : Builtin where
  name := "parse_int"
  returnType := .int
  params := [some .string]
  run
    | [.string s] => replyInt s (Numeral.readPlain s.toList)
    | _ => unaccepted

/-- Counts the characters of a text. -/
def length : Builtin where
  name := "len"
  returnType := .int
  params := [some .string]
  run
    | [.string s] => { result := .ok (.int s.length) }
    | _ => unaccepted

/-- Gives the name of the type of its argument. -/
def typeOf : Builtin where
  name := "type_of"
  returnType := .string
  params := [none]
  run
    | [v] => { result := .ok (.string v.type.name) }
    | _ => unaccepted

/-- Fails unless its argument is true. -/
def assert : Builtin where
  name := "assert"
  returnType := .nothing
  params := [some .bool]
  run
    | [.bool true] => { result := .ok .nothing }
    | [.bool false] => { result := .error (.located .assertionFailed none) }
    | _ => unaccepted

end Scriptlet.Builtin

/-- The registry of the functions that every program starts with. -/
def Scriptlet.Registry.standard : Scriptlet.Registry where
  builtins := [.print, .toText, .parseInt, .length, .typeOf, .assert]
  distinct := by decide
