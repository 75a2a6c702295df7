/-!
# Types of values

There are five types. Four of them, all but `fn`, can be written as annotations in a program.
-/

namespace Scriptlet

/-- The type of a value. -/
inductive ValueType where
  /-- An integer of any size. -/
  | int
  /-- A text. -/
  | string
  /-- A truth value. -/
  | bool
  /-- A function, defined in the program or built in. -/
  | fn
  /-- The type of the one value that stands for no value. -/
  | nothing
deriving DecidableEq, Repr, Inhabited

namespace ValueType

/-- The name that programs and diagnostics use. -/
def name : ValueType → String
  | int => "int"
  | string => "string"
  | bool => "bool"
  | fn => "fn"
  | nothing => "_none"

/-- The type that an annotation names. -/
def ofAnnotation? (typeText : String) : Option ValueType :=
  if typeText = "int" then some int
  else if typeText = "string" then some string
  else if typeText = "bool" then some bool
  else if typeText = "_none" then some nothing
  else none

theorem ofAnnotation?_name {t : ValueType} (h : t ≠ fn) : ofAnnotation? t.name = some t := by
  cases t <;> first | rfl | exact absurd rfl h

theorem name_of_ofAnnotation? {typeText : String} {t : ValueType}
    (h : ofAnnotation? typeText = some t) : t.name = typeText ∧ t ≠ fn := by
  unfold ofAnnotation? at h
  repeat' split at h
  all_goals simp_all
  all_goals subst_vars; exact ⟨rfl, by decide⟩

end ValueType

end Scriptlet
