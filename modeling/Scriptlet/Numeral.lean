import Scriptlet.Text.Blank
import Scriptlet.Text.Digit

/-!
# Decimal numerals

Integers have no bound, but their decimal text does: a numeral of more than 4300 digits is neither
read nor written. Numerals are read in three places. The digits of a literal in a program are ASCII
digits; the texts that programs and settings convert may use the decimal digits of any script.
-/

namespace Scriptlet.Numeral

open Text

/-- The longest numeral that is read or written, in digits. -/
def maxDigits : Nat := 4300

/-- A numeral longer than the limit. -/
inductive TooLong where
  /-- A text of this many digits was to be read. -/
  | reading (digits : Nat)
  /-- An integer was to be written that needs more digits than the limit. -/
  | writing
deriving DecidableEq, Repr

/-- What is said of a numeral that is too long. -/
def TooLong.message : TooLong → String
  | .reading digits =>
    "Exceeds the limit (" ++ toString maxDigits ++
      " digits) for integer string conversion: value has " ++ toString digits ++
      " digits; use sys.set_int_max_str_digits() to increase the limit"
  | .writing =>
    "Exceeds the limit (" ++ toString maxDigits ++
      " digits) for integer string conversion; " ++
      "use sys.set_int_max_str_digits() to increase the limit"

/-! ## Reading -/

/-- The number that a list of digits denotes, the most significant digit first. -/
def ofDigits (digits : List Nat) : Nat := digits.foldl (fun n d => 10 * n + d) 0

theorem ofDigits_concat (digits : List Nat) (d : Nat) :
    ofDigits (digits ++ [d]) = 10 * ofDigits digits + d := by
  rw [ofDigits, List.foldl_append]
  rfl

/-- The integer of a sign and digits, unless there are too many digits. -/
def ofSignAndDigits (negative : Bool) (digits : List Nat) : Except TooLong Int :=
  if digits.length > maxDigits then .error (.reading digits.length)
  else .ok (if negative then -(ofDigits digits : Int) else ofDigits digits)

/-- A text without its sign, and whether the sign is a minus. -/
def splitSign : List Char → Bool × List Char
  | '-' :: cs => (true, cs)
  | '+' :: cs => (false, cs)
  | cs => (false, cs)

/-- The values of a text's characters, if all of them are decimal digits. -/
def digits? (cs : List Char) : Option (List Nat) := cs.mapM digitValue?

/-- The digits of a numeral in which single underscores may stand between digits. -/
def groupedDigits? : List Char → Option (List Nat)
  | [] => none
  | [c] => (digitValue? c).map ([·])
  | c :: '_' :: cs => do return (← digitValue? c) :: (← groupedDigits? cs)
  | c :: cs => do return (← digitValue? c) :: (← groupedDigits? cs)

/-- Why a text is no integer. -/
inductive Unreadable where
  /-- It does not have the form of a numeral. -/
  | malformed
  /-- It is a numeral with too many digits. -/
  | tooLong (reason : TooLong)
deriving DecidableEq, Repr

/-- Reads white space, an optional sign, digits and white space; single underscores may stand
between digits. -/
def readGrouped (cs : List Char) : Except Unreadable Int :=
  let (negative, rest) := splitSign (trimBoth isMargin cs)
  match groupedDigits? rest with
  | none => .error .malformed
  | some digits => (ofSignAndDigits negative digits).mapError .tooLong

/-- Reads white space, an optional sign, one digit or more and white space. -/
def readPlain (cs : List Char) : Except Unreadable Int :=
  let (negative, rest) := splitSign (trim cs)
  match rest, digits? rest with
  | _ :: _, some digits => (ofSignAndDigits negative digits).mapError .tooLong
  | _, _ => .error .malformed

/-! ## Writing -/

/-- The least number that is too long to be written. -/
def writingLimit : Nat := Nat.pow 10 maxDigits

/-- The decimal text of an integer, unless it has too many digits. -/
def write (n : Int) : Except TooLong String :=
  if n.natAbs < writingLimit then .ok (toString n) else .error .writing

theorem write_eq_ok {n : Int} (h : n.natAbs < writingLimit) : write n = .ok (toString n) := by
  unfold write
  rw [if_pos h]

end Scriptlet.Numeral
