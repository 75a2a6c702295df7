import Scriptlet.Expr

/-!
# Outlines

The outline of a tree has a line for each node and each part of a node, indented by its depth.
-/

namespace Scriptlet.Expr

/-- A line, indented by a number of steps of two spaces. -/
def indented (depth : Nat) (line : String) : String :=
  String.ofList (List.replicate (2 * depth) ' ') ++ line

/-- The line of a parameter. -/
def paramLine (p : Param) : String :=
  toString p.index ++ ": " ++ p.name ++ " " ++ p.typeToken.text

mutual

/-- The lines of a tree, its root indented by a number of steps. -/
def outline (depth : Nat) : Expr → List String
  | leaf t _ => [indented depth ("Leaf " ++ t.kind.name ++ " " ++ t.text)]
  | assign target value _ =>
    [indented depth "BinaryExpr", indented (depth + 1) "op: :=", indented (depth + 1) "lhs:"] ++
      outline (depth + 2) target ++ [indented (depth + 1) "rhs:"] ++ outline (depth + 2) value
  | binary op left right _ =>
    [indented depth "BinaryExpr", indented (depth + 1) ("op: " ++ op.symbol),
        indented (depth + 1) "lhs:"] ++
      outline (depth + 2) left ++ [indented (depth + 1) "rhs:"] ++ outline (depth + 2) right
  | call name args _ =>
    [indented depth "FnCall", indented (depth + 1) ("name: " ++ name),
        indented (depth + 1) "args: ["] ++
      outlines (depth + 2) args ++ [indented (depth + 1) "]"]
  | define name params body returnType _ =>
    [indented depth "FnDef", indented (depth + 1) ("name: " ++ name),
        indented (depth + 1) "args:"] ++
      ((Param.inOrder params).map fun p => indented (depth + 2) (paramLine p)) ++
      [indented (depth + 1) "body: ["] ++ outlines (depth + 2) body ++
      [indented (depth + 1) "]", indented (depth + 1) ("return_type: " ++ returnType)]
  | ret inner _ =>
    [indented depth "Return", indented (depth + 1) "inner:"] ++ outline (depth + 2) inner
  | hole => [indented depth "Expr"]

/-- The lines of trees, their roots indented by a number of steps. -/
def outlines (depth : Nat) : List Expr → List String
  | [] => []
  | e :: es => outline depth e ++ outlines depth es

end

theorem outlines_eq_flatMap (depth : Nat) (es : List Expr) :
    outlines depth es = es.flatMap (outline depth) := by
  induction es with
  | nil => rfl
  | cons e es ih => simp [outlines, ih]

/-- The outline of a program. -/
def programOutline (statements : List Expr) : String := "\n".intercalate (outlines 0 statements)

end Scriptlet.Expr
