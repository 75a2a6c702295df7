/-!
# The inside of string literals

`readStringBody q` reads the text behind an opening quote `q`. Characters stand for themselves,
but for the quote, the line feed and the backslash; a backslash makes an escape with the character
behind it.
-/

namespace Scriptlet.Token

/-- The character that an escape stands for, given the character behind its backslash. -/
def escapeValue? : Char → Option Char
  | 'n' => some '\n'
  | 't' => some '\t'
  | 'r' => some '\r'
  | '\\' => some '\\'
  | '"' => some '"'
  | '\'' => some '\''
  | '0' => some '\x00'
  | _ => none

/-- How the inside of a string comes to an end. -/
inductive StringEnd where
  /-- With the quote that closes it. -/
  | closed
  /-- At the end of the line or of the text. -/
  | unclosed
  /-- With a backslash that makes no escape with the character behind it, if there is one. -/
  | badEscape (c : Option Char)
deriving DecidableEq, Repr

/-- The inside of a string, read up to its end. -/
structure StringBody where
  /-- The text that was read, the closing quote included. -/
  text : List Char
  /-- What the text stands for. -/
  value : List Char
  /-- The text that follows. -/
  rest : List Char
  /-- How the inside came to an end. -/
  ending : StringEnd
deriving DecidableEq, Repr

/-- The inside with a character before it, written in the given way. -/
def StringBody.after (written : List Char) (c : Char) (b : StringBody) : StringBody :=
  { b with text := written ++ b.text, value := c :: b.value }

/-- Reads the text behind the opening quote `q`. -/
def readStringBody (q : Char) : List Char → StringBody
  | [] => ⟨[], [], [], .unclosed⟩
  | ['\\'] => ⟨['\\'], [], [], .badEscape none⟩
  | '\\' :: c :: cs =>
    match escapeValue? c with
    | some v => (readStringBody q cs).after ['\\', c] v
    | none => ⟨['\\', c], [], cs, .badEscape (some c)⟩
  | c :: cs =>
    if c = q then ⟨[c], [], cs, .closed⟩
    else if c = '\n' then ⟨[], [], c :: cs, .unclosed⟩
    else (readStringBody q cs).after [c] c

/-- No character is lost or made up. -/
theorem text_append_rest (q : Char) (cs : List Char) :
    (readStringBody q cs).text ++ (readStringBody q cs).rest = cs := by
  fun_induction readStringBody q cs with
  | case1 => rfl
  | case2 => rfl
  | case3 c cs v h ih => simpa [StringBody.after] using ih
  | case4 => rfl
  | case5 => rfl
  | case6 => rfl
  | case7 c cs _ _ _ _ ih => simpa [StringBody.after] using ih

end Scriptlet.Token
