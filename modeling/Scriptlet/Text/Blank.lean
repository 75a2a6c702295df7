/-!
# Blank characters

The white space that is trimmed off texts. It is wider than the white space between the tokens of
a program, which is only the space, the tab, the carriage return and the line feed.
-/

namespace Scriptlet.Text

/-- The control characters that separate files, groups, records and units. -/
def isInformationSeparator (c : Char) : Bool := 0x1c ≤ c.toNat && c.toNat ≤ 0x1f

/-- White space around a numeral. -/
def isMargin (c : Char) : Bool :=
  let n := c.toNat
  (0x09 ≤ n && n ≤ 0x0d) || n == 0x20 || n == 0x85 || n == 0xa0 || n == 0x1680 ||
    (0x2000 ≤ n && n ≤ 0x200a) || n == 0x2028 || n == 0x2029 || n == 0x202f || n == 0x205f ||
    n == 0x3000

/-- White space of any kind. -/
def isBlank (c : Char) : Bool := isMargin c || isInformationSeparator c

/-- A text without the leading and trailing characters of a class. -/
def trimBoth (p : Char → Bool) (cs : List Char) : List Char :=
  ((cs.dropWhile p).reverse.dropWhile p).reverse

/-- A text without leading and trailing white space. -/
def trim (cs : List Char) : List Char := trimBoth isBlank cs

end Scriptlet.Text
