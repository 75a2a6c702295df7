import Scriptlet.Token
import Scriptlet.Keyed

/-!
# Expressions

A program is a list of expressions, its statements. An expression is a tree; its nodes carry the
stretch of the program that they were read from, which serves diagnostics only. Trees that were
not read from a program may lack spans and may have shapes that no program has, such as an
assignment to something that is no name.
-/

namespace Scriptlet

/-- The operators that compute a value from two values. -/
inductive Operator where
  /-- `+` -/
  | add
  /-- `-` -/
  | sub
  /-- `*` -/
  | mul
  /-- `/` -/
  | div
  /-- `==` -/
  | eq
  /-- `!=` -/
  | ne
deriving DecidableEq, Repr

/-- The symbol of an operator. -/
def Operator.symbol : Operator → String
  | add => "+"
  | sub => "-"
  | mul => "*"
  | div => "/"
  | eq => "=="
  | ne => "!="

/-- What may join an operand to the rest of an expression. -/
inductive Connective where
  /-- An operator. -/
  | operator (op : Operator)
  /-- The assignment symbol. -/
  | assign
deriving DecidableEq, Repr

namespace Connective

/-- The symbol of a connective. -/
def symbol : Connective → String
  | operator op => op.symbol
  | assign => ":="

/-- All connectives. -/
def all : List Connective :=
  [operator .add, operator .sub, operator .mul, operator .div, operator .eq, operator .ne, assign]

/-- The connective of a given symbol. -/
def ofSymbol? (s : String) : Option Connective := all.find? (·.symbol = s)

theorem ofSymbol?_symbol (c : Connective) : ofSymbol? c.symbol = some c := by
  rcases c with op | _
  · cases op <;> decide
  · decide

theorem symbol_of_ofSymbol? {s : String} {c : Connective} (h : ofSymbol? s = some c) :
    c.symbol = s := by
  simpa using List.find?_some h

end Connective

/-- A parameter of a function definition. -/
structure Param where
  /-- Which of the arguments the parameter takes, counted from 0. -/
  index : Int
  /-- The name that the argument is bound to. -/
  name : String
  /-- The token that names the type of the parameter. -/
  typeToken : Token
  /-- Where the annotation stands. -/
  span : Option Span := none
deriving DecidableEq, Repr

namespace Param

/-- What tells the parameters of a definition apart. -/
def key (p : Param) : Int × String := (p.index, p.name)

/-- The order by place, and by name where the place is the same. -/
def precedes (p q : Int × String) : Bool :=
  p.1 < q.1 || (p.1 = q.1 && decide (p.2 ≤ q.2))

/-- Parameters in the order of their places. -/
def inOrder (ps : List Param) : List Param := ps.mergeSort fun p q => precedes p.key q.key

end Param

/-- An expression. -/
inductive Expr where
  /-- A literal, a name, or a stand-in for a token that starts no expression. -/
  | leaf (token : Token) (span : Option Span)
  /-- `target := value` -/
  | assign (target value : Expr) (span : Option Span)
  /-- `left op right` -/
  | binary (op : Operator) (left right : Expr) (span : Option Span)
  /-- `name(args)` -/
  | call (name : String) (args : List Expr) (span : Option Span)
  /-- A function definition. -/
  | define (name : String) (params : List Param) (body : List Expr) (returnType : String)
      (span : Option Span)
  /-- `return inner` -/
  | ret (inner : Expr) (span : Option Span)
  /-- A node of no kind. No program has one. -/
  | hole
deriving Repr, Inhabited

namespace Expr

/-- The stretch of the program that an expression was read from. -/
def span : Expr → Option Span
  | leaf _ s | assign _ _ s | binary _ _ _ s | call _ _ s | define _ _ _ _ s | ret _ s => s
  | hole => none

/-- An operand joined to the rest of an expression. -/
def join (c : Connective) (left right : Expr) (span : Option Span) : Expr :=
  match c with
  | .operator op => binary op left right span
  | .assign => assign left right span

/-- Whether the expression is a function definition, which takes no semicolon. -/
def isDefinition : Expr → Bool
  | define .. => true
  | _ => false

/-- The token of a leaf that is a name. -/
def identifier? : Expr → Option Token
  | leaf t _ => if t.kind = .identifier then some t else none
  | _ => none

/-- Induction over expressions, with the members of argument lists and bodies. -/
@[elab_as_elim]
theorem induction {motive : Expr → Prop}
    (leaf : ∀ t s, motive (.leaf t s))
    (assign : ∀ target value s, motive target → motive value → motive (.assign target value s))
    (binary : ∀ op left right s, motive left → motive right → motive (.binary op left right s))
    (call : ∀ name args s, (∀ a ∈ args, motive a) → motive (.call name args s))
    (define : ∀ name params body returnType s, (∀ e ∈ body, motive e) →
      motive (.define name params body returnType s))
    (ret : ∀ inner s, motive inner → motive (.ret inner s))
    (hole : motive .hole) (e : Expr) : motive e :=
  @Expr.rec motive (fun es => ∀ e ∈ es, motive e) leaf assign binary call define ret hole
    (by simp) (by simp +contextual) e

end Expr

end Scriptlet
