/-!
# Gaps between tokens

Between tokens there may be white space, comments from `#` to the end of the line, and block
comments, which nest. `skipGap` takes the gap at the start of a text off it. All that it skips and
leaves is the text itself (`skipped_append_rest`), so positions behind the gap can be counted.
-/

namespace Scriptlet.Token

/-- The characters that separate tokens. -/
def isSpace (c : Char) : Bool := c == ' ' || c == '\t' || c == '\r' || c == '\n'

/-- A text behind `depth` open block comments, split where the last of them is closed. -/
def closeComments : (depth : Nat) → List Char → Option (List Char × List Char)
  | 0, cs => some ([], cs)
  | _ + 1, [] => none
  | depth + 1, '/' :: '*' :: cs =>
    (closeComments (depth + 2) cs).map fun (body, rest) => ('/' :: '*' :: body, rest)
  | depth + 1, '*' :: '/' :: cs =>
    (closeComments depth cs).map fun (body, rest) => ('*' :: '/' :: body, rest)
  | depth + 1, c :: cs =>
    (closeComments (depth + 1) cs).map fun (body, rest) => (c :: body, rest)

theorem append_of_closeComments {depth : Nat} {cs body rest : List Char}
    (h : closeComments depth cs = some (body, rest)) : body ++ rest = cs := by
  fun_induction closeComments depth cs generalizing body rest with
  | case1 => simp_all
  | case2 => cases h
  | case3 depth cs ih | case4 depth cs ih | case5 depth c cs _ _ ih =>
    obtain ⟨⟨body', rest'⟩, h', he⟩ := Option.map_eq_some_iff.1 h
    cases he
    simp [ih h']

/-- A text split behind the gap that it starts with. -/
structure Gap where
  /-- The gap. -/
  skipped : List Char
  /-- What follows it. -/
  rest : List Char
  /-- Whether a token or the end of the text follows, and not a block comment that is never
  closed. -/
  closed : Bool
deriving DecidableEq, Repr

/-- The gap with more text before it. -/
def Gap.after (before : List Char) (g : Gap) : Gap := { g with skipped := before ++ g.skipped }

/-- Takes the gap at the start of a text off it. -/
def skipGap (cs : List Char) : Gap :=
  match cs with
  | [] => ⟨[], [], true⟩
  | '#' :: tail =>
    (skipGap (tail.dropWhile (· ≠ '\n'))).after ('#' :: tail.takeWhile (· ≠ '\n'))
  | '/' :: '*' :: tail =>
    match _h : closeComments 1 tail with
    | none => ⟨[], '/' :: '*' :: tail, false⟩
    | some (body, rest) => (skipGap rest).after ('/' :: '*' :: body)
  | c :: tail =>
    if isSpace c then (skipGap tail).after [c] else ⟨[], c :: tail, true⟩
termination_by cs.length
decreasing_by
  · have := (List.dropWhile_sublist (l := tail) (· ≠ '\n')).length_le
    simp only [List.length_cons]
    omega
  · have := congrArg List.length (append_of_closeComments _h)
    simp only [List.length_append, List.length_cons] at this ⊢
    omega
  · simp

theorem skipped_append_rest (cs : List Char) : (skipGap cs).skipped ++ (skipGap cs).rest = cs := by
  fun_induction skipGap cs with
  | case1 => rfl
  | case2 tail ih => simp only [Gap.after, List.append_assoc, ih, List.cons_append,
      List.takeWhile_append_dropWhile]
  | case3 tail h => rfl
  | case4 tail body rest h ih => simpa [Gap.after, ih] using append_of_closeComments h
  | case5 c tail _ _ _ ih => simpa [Gap.after] using ih
  | case6 => rfl

theorem length_rest_skipGap_le (cs : List Char) : (skipGap cs).rest.length ≤ cs.length := by
  have := congrArg List.length (skipped_append_rest cs)
  simp only [List.length_append] at this
  omega

/-- A block comment that is never closed is still there to be read. -/
theorem rest_ne_nil_of_not_closed {cs : List Char} (h : (skipGap cs).closed = false) :
    (skipGap cs).rest ≠ [] := by
  fun_induction skipGap cs with
  | case1 => cases h
  | case2 tail ih => exact ih h
  | case3 => simp
  | case4 tail body rest _ ih => exact ih h
  | case5 c tail _ _ _ ih => exact ih h
  | case6 => cases h

end Scriptlet.Token
