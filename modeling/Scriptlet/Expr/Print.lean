import Scriptlet.Expr

/-!
# Printed expressions

An expression is printed on one line, with single spaces. A statement in a body is followed by a
semicolon, unless it is a definition.
-/

namespace Scriptlet.Expr

/-- What follows an expression that is a statement. -/
def terminator (e : Expr) : String := if e.isDefinition then "" else ";"

/-- A parameter as it is written in a definition. -/
def paramText (p : Param) : String := p.typeToken.text ++ " " ++ p.name

/-- The clause that names the type of a definition's results; there is none for `_none`. -/
def returnClause (returnType : String) : String :=
  if returnType = "_none" then "" else " -> " ++ returnType

/-- A body, given the texts of its statements. -/
def block (statements : List String) : String :=
  if statements.isEmpty then "\x7b \x7d" else "\x7b " ++ " ".intercalate statements ++ " \x7d"

mutual

/-- The text of an expression. -/
def text : Expr → String
  | leaf t _ => t.text
  | assign target value _ => target.text ++ " := " ++ value.text
  | binary op left right _ => left.text ++ " " ++ op.symbol ++ " " ++ right.text
  | call name args _ => name ++ "(" ++ ", ".intercalate (texts args) ++ ")"
  | define name params body returnType _ =>
    "func " ++ name ++ "(" ++ ", ".intercalate ((Param.inOrder params).map paramText) ++ ")" ++
      returnClause returnType ++ " " ++ block (statementTexts body)
  | ret inner _ => "return " ++ inner.text
  | hole => "Expr()"

/-- The texts of expressions. -/
def texts : List Expr → List String
  | [] => []
  | e :: es => e.text :: texts es

/-- The texts of statements. -/
def statementTexts : List Expr → List String
  | [] => []
  | e :: es => (e.text ++ e.terminator) :: statementTexts es

end

theorem texts_eq_map (es : List Expr) : texts es = es.map text := by
  induction es with
  | nil => rfl
  | cons e es ih => simp [texts, ih]

theorem statementTexts_eq_map (es : List Expr) :
    statementTexts es = es.map fun e => e.text ++ e.terminator := by
  induction es with
  | nil => rfl
  | cons e es ih => simp [statementTexts, ih]

/-- A whole program, a statement a line. -/
def programText (statements : List Expr) : String := "\n".intercalate (statementTexts statements)

end Scriptlet.Expr
