import Scriptlet.LangError
import Scriptlet.Numeral

/-!
# Failures

Reading or running a program fails with an error of the language or, beside those, because a numeral
is too long or because a function takes an argument that the call does not have.
-/

namespace Scriptlet

/-- Why reading or running a program did not come to its end. -/
inductive Failure where
  /-- The program is in error. -/
  | language (e : LangError)
  /-- A numeral is too long to be read or written. -/
  | tooLong (reason : Numeral.TooLong)
  /-- A parameter stands at a place that the arguments do not reach. -/
  | missingArgument
deriving DecidableEq, Repr

namespace Failure

/-- The failure of an error whose line is not yet known. -/
def located (cause : Cause) (span : Option Span) : Failure := .language (.located cause span)

/-- The failure, with the line of the program that an error points at. -/
def attach (f : Failure) (text : String) : Failure :=
  match f with
  | language e => language (e.attach text)
  | f => f

end Failure

end Scriptlet
