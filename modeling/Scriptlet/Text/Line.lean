/-!
# The lines of a text

Diagnostics show the line of the program that they point at. A text breaks into lines at every line
break that Unicode knows, a carriage return and a line feed together being one; a break at the very
end starts no further line.
-/

namespace Scriptlet.Text

/-- The characters that end a line. -/
def isLineBreak (c : Char) : Bool :=
  let n := c.toNat
  (0x0a ≤ n && n ≤ 0x0d) || (0x1c ≤ n && n ≤ 0x1e) || n == 0x85 || n == 0x2028 || n == 0x2029

/-- The lines of a text, without the characters that end them. -/
def splitLines : List Char → List (List Char)
  | [] => []
  | '\r' :: '\n' :: cs => [] :: splitLines cs
  | c :: cs =>
    if isLineBreak c then [] :: splitLines cs
    else match splitLines cs with
      | [] => [[c]]
      | line :: lines => (c :: line) :: lines

/-- The lines of a text, without the characters that end them. -/
def lines (s : String) : List String := (splitLines s.toList).map String.ofList

@[simp] theorem splitLines_nil : splitLines [] = [] := rfl

/-- Only the empty text has no line. -/
theorem splitLines_eq_nil_iff {cs : List Char} : splitLines cs = [] ↔ cs = [] := by
  constructor
  · intro h
    unfold splitLines at h
    split at h
    · rfl
    · cases h
    · split at h
      · cases h
      · split at h <;> cases h
  · rintro rfl
    rfl

end Scriptlet.Text
