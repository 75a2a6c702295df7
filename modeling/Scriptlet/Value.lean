import Scriptlet.Expr.Same
import Scriptlet.Numeral
import Scriptlet.ValueType

/-!
# Values

A function is a value like any other. What a name is bound to is the function as it was defined;
it holds no bindings of its own.
-/

namespace Scriptlet

/-- A parameter of a function. -/
structure TypedParam where
  /-- Which of the arguments the parameter takes, counted from 0. -/
  index : Int
  /-- The name that the argument is bound to. -/
  name : String
  /-- The type that was declared for it. -/
  type : ValueType
deriving DecidableEq, Repr

namespace TypedParam

/-- What tells the parameters of a function apart. -/
def key (p : TypedParam) : Int × String := (p.index, p.name)

/-- Parameters in the order of their places. -/
def inOrder (ps : List TypedParam) : List TypedParam :=
  ps.mergeSort fun p q => Param.precedes p.key q.key

end TypedParam

/-- A function defined in a program. -/
structure UserFunction where
  /-- The name that it was defined with. -/
  name : String
  /-- Its parameters, in the order in which they are bound. -/
  params : List TypedParam
  /-- Its statements. -/
  body : List Expr
  /-- The type that was declared for its results. -/
  returnType : ValueType
deriving Repr

/-- A function of a program, or a handle to one that is built in. -/
inductive Function where
  /-- The built-in function that is registered under a name, as far as results of a given type go.
  -/
  | builtin (name : String) (returnType : ValueType)
  /-- A function defined in a program. -/
  | user (f : UserFunction)
deriving Repr

/-- The name of a function. -/
def Function.name : Function → String
  | builtin name _ => name
  | user f => f.name

/-- A value. -/
inductive Value where
  /-- An integer. -/
  | int (n : Int)
  /-- A text. -/
  | string (s : String)
  /-- A truth value. -/
  | bool (b : Bool)
  /-- A function. -/
  | fn (f : Function)
  /-- The value that stands for no value. -/
  | nothing
deriving Repr, Inhabited

namespace Value

/-- The type of a value. -/
def type : Value → ValueType
  | int _ => .int
  | string _ => .string
  | bool _ => .bool
  | fn _ => .fn
  | nothing => .nothing

/-- The text of a value that programs see. -/
def display : Value → Except Numeral.TooLong String
  | int n => Numeral.write n
  | string s => .ok s
  | bool b => .ok (if b then "true" else "false")
  | fn f => .ok ("<fn " ++ f.name ++ ">")
  | nothing => .ok "Nothing"

/-- The text of a value that shows its type; functions have none. -/
def inspect? : Value → Option (Except Numeral.TooLong String)
  | int n => some ((Numeral.write n).map fun s => "Value(" ++ s ++ ", int)")
  | string s => some (.ok ("Value(" ++ Text.quoted s ++ ", string)"))
  | bool b => some (.ok ("Value(" ++ (if b then "True" else "False") ++ ", bool)"))
  | fn _ => none
  | nothing => some (.ok "Value(None, _none)")

end Value

/-- Whether two functions of programs say the same: places and texts of their bodies do not count,
nor does the order in which their parameters are bound. -/
def UserFunction.same (f g : UserFunction) : Bool :=
  f.name = g.name && TypedParam.inOrder f.params = TypedParam.inOrder g.params &&
    Expr.allSame f.body g.body && f.returnType = g.returnType

/-- Whether two values are the same. -/
def Value.same : Value → Value → Bool
  | int m, int n => m = n
  | string s, string t => s = t
  | bool b, bool c => b = c
  | fn (.builtin name type), fn (.builtin name' type') => name = name' && type = type'
  | fn (.user f), fn (.user g) => f.same g
  | nothing, nothing => true
  | _, _ => false

end Scriptlet
