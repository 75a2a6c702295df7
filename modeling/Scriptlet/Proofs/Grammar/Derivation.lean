import Mathlib.Data.List.Basic
import Mathlib.Tactic.Lemma
import Scriptlet.Expr.Reading

/-!
# The grammar

What the token lists of programs are, said without a reader.  `Derives p ts` says that the tokens
`ts` are the phrase `p`, where a phrase comes with its tree, so that a derivation says what a list
of tokens means along with that it means something.

There is no precedence: the right operand of an operator is all that follows it.  Almost every
token may stand for an expression of its own, an error leaf, and so may a closing parenthesis or
brace.  What keeps the grammar unambiguous is that the first argument of a call does not begin with
`)` and that no statement of a body begins with `}`.
-/

namespace Scriptlet

/-- The tokens that follow an expression that is a statement. -/
def Expr.ending (e : Expr) : List Token :=
  if e.isDefinition then [] else [.ofText .semicolon ";"]

namespace Grammar

/-- Whether the first token of a list is of a given kind. -/
def Begins (k : Token.Kind) (ts : List Token) : Prop := ts.head?.map Token.kind = some k

/-- The span of a node that was read from these tokens: from the first one to the last one. -/
def extent (t : Token) (ts : List Token) : Option Span := spanOf t (ts.getLastD t)

/-- `Params n ts ps`: the tokens are the parameters `ps`, one at least, the first of them at the
place `n`. -/
inductive Params : Nat → List Token → List Param → Prop
  /-- `type name` -/
  | last {n : Nat} {type name : Token} (ht : type.kind = .typeName)
      (hn : name.kind = .identifier) : Params n [type, name] [.ofTokens n type name]
  /-- `type name , params` -/
  | more {n : Nat} {type name comma : Token} {ts : List Token} {ps : List Param}
      (ht : type.kind = .typeName) (hn : name.kind = .identifier) (hc : comma.kind = .comma)
      (h : Params (n + 1) ts ps) :
      Params n (type :: name :: comma :: ts) (.ofTokens n type name :: ps)

/-- `ParamList ts ps`: the tokens are the parameters `ps`, if there are any. -/
inductive ParamList : List Token → List Param → Prop
  /-- No parameters. -/
  | none : ParamList [] []
  /-- Parameters, counted from 0. -/
  | some {ts : List Token} {ps : List Param} (h : Params 0 ts ps) : ParamList ts ps

/-- `ReturnClause ts r`: the tokens say that results are of the type `r`. -/
inductive ReturnClause : List Token → String → Prop
  /-- Where nothing is said, there are no results. -/
  | none : ReturnClause [] "_none"
  /-- `-> type` -/
  | some {arrow type : Token} (ha : arrow.kind = .arrow) (ht : type.kind = .typeName) :
      ReturnClause [arrow, type] type.payload.display

/-- `Head ts h`: the tokens are what stands between `func` and the body of a definition. -/
inductive Head : List Token → Header → Prop
  /-- `name ( params ) returns {` -/
  | mk {name left right brace : Token} {ts us : List Token} {ps : List Param} {returnType : String}
      (hn : name.kind = .identifier) (hl : left.kind = .leftParen) (hp : ParamList ts ps)
      (hr : right.kind = .rightParen) (hu : ReturnClause us returnType)
      (hb : brace.kind = .leftBrace) :
      Head (name :: left :: (ts ++ right :: (us ++ [brace])))
        ⟨name.payload.display, ps, returnType⟩

/-- The kinds of tokens that are an expression of their own wherever they stand. -/
def isOperand : Token.Kind → Bool
  | .identifier | .intLiteral | .boolLiteral | .stringLiteral => true
  | _ => false

/-- The kinds of tokens that no expression starts with, except that each of them may stand for an
expression, which is an error leaf. -/
def isStray : Token.Kind → Bool
  | .ret | .identifier | .intLiteral | .boolLiteral | .stringLiteral | .func | .eof => false
  | _ => true

/-- What tokens can mean. -/
inductive Phrase where
  /-- An expression. -/
  | expr (e : Expr)
  /-- Arguments, one at least. -/
  | args (es : List Expr)
  /-- A statement. -/
  | statement (e : Expr)
  /-- The statements of a body. -/
  | body (es : List Expr)
  /-- The statements of a program. -/
  | program (es : List Expr)

open Phrase

/-- `Derives p ts`: the tokens `ts` are the phrase `p`. -/
inductive Derives : Phrase → List Token → Prop
  /-- `return expr` -/
  | ret {t : Token} {ts : List Token} {e : Expr} (ht : t.kind = .ret) (h : Derives (expr e) ts) :
      Derives (expr (.ret e (extent t ts))) (t :: ts)
  /-- `name := expr` -/
  | assign {t u : Token} {ts : List Token} {e : Expr} (ht : t.kind = .identifier)
      (hu : u.kind = .assign) (h : Derives (expr e) ts) :
      Derives (expr (.assign (.leaf t t.span) e (extent t (u :: ts)))) (t :: u :: ts)
  /-- `name ( )` -/
  | callEmpty {t u v : Token} (ht : t.kind = .identifier) (hu : u.kind = .leftParen)
      (hv : v.kind = .rightParen) :
      Derives (expr (.call t.payload.display [] (extent t [u, v]))) [t, u, v]
  /-- `name ( args )` -/
  | call {t u v : Token} {ts : List Token} {es : List Expr} (ht : t.kind = .identifier)
      (hu : u.kind = .leftParen) (h : Derives (args es) ts) (hb : ¬ Begins .rightParen ts)
      (hv : v.kind = .rightParen) :
      Derives (expr (.call t.payload.display es (extent t (u :: (ts ++ [v])))))
        (t :: u :: (ts ++ [v]))
  /-- `name operator expr` and `integer operator expr` -/
  | chain {t u : Token} {ts : List Token} {e : Expr} {c : Connective}
      (ht : t.kind = .identifier ∨ t.kind = .intLiteral) (hu : u.kind = .operator)
      (hc : Connective.ofSymbol? u.payload.display = some c) (h : Derives (expr e) ts) :
      Derives (expr (.join c (.leaf t t.span) e (extent t (u :: ts)))) (t :: u :: ts)
  /-- A name or a literal. -/
  | operand {t : Token} (ht : isOperand t.kind) : Derives (expr (.leaf t t.span)) [t]
  /-- An error leaf. -/
  | stray {t : Token} (ht : isStray t.kind) : Derives (expr (.leaf t.asError t.span)) [t]
  /-- `func head body }` -/
  | define {t v : Token} {ts us : List Token} {head : Header} {es : List Expr} (ht : t.kind = .func)
      (hh : Head ts head) (h : Derives (body es) us) (hv : v.kind = .rightBrace) :
      Derives (expr (.define head.name head.params es head.returnType
        (extent t (ts ++ (us ++ [v]))))) (t :: (ts ++ (us ++ [v])))
  /-- `expr` -/
  | lastArg {ts : List Token} {e : Expr} (h : Derives (expr e) ts) : Derives (args [e]) ts
  /-- `expr , args` -/
  | moreArgs {t : Token} {ts us : List Token} {e : Expr} {es : List Expr}
      (h : Derives (expr e) ts) (ht : t.kind = .comma) (hs : Derives (args es) us) :
      Derives (args (e :: es)) (ts ++ t :: us)
  /-- A definition is a statement as it is. -/
  | definition {ts : List Token} {e : Expr} (h : Derives (expr e) ts)
      (hd : e.isDefinition = true) : Derives (statement e) ts
  /-- `expr ;` -/
  | terminated {t : Token} {ts : List Token} {e : Expr} (h : Derives (expr e) ts)
      (hd : e.isDefinition = false) (ht : t.kind = .semicolon) :
      Derives (statement e) (ts ++ [t])
  /-- A body may be empty. -/
  | bodyEnd : Derives (body []) []
  /-- `statement body` -/
  | bodyMore {ts us : List Token} {e : Expr} {es : List Expr} (h : Derives (statement e) ts)
      (hb : ¬ Begins .rightBrace ts) (hs : Derives (body es) us) :
      Derives (body (e :: es)) (ts ++ us)
  /-- A program may be empty. -/
  | programEnd : Derives (program []) []
  /-- `statement program` -/
  | programMore {ts us : List Token} {e : Expr} {es : List Expr} (h : Derives (statement e) ts)
      (hs : Derives (program es) us) : Derives (program (e :: es)) (ts ++ us)

/-- Whether a phrase takes at least one token. -/
def Phrase.isFull : Phrase → Bool
  | expr _ | args _ | statement _ => true
  | body _ | program _ => false

lemma Derives.ne_nil {p : Phrase} {ts : List Token} (h : Derives p ts) (hp : p.isFull = true) :
    ts ≠ [] := by
  induction h with
  | lastArg _ ih | definition _ _ ih => exact ih rfl
  | bodyEnd | bodyMore _ _ _ _ _ | programEnd | programMore _ _ _ _ => cases hp
  | _ => simp

lemma Derives.statement {ts : List Token} {e : Expr} (h : Derives (expr e) ts) :
    Derives (statement e) (ts ++ e.ending) := by
  unfold Expr.ending
  split
  · rename_i hd
    rw [List.append_nil]
    exact .definition h hd
  · rename_i hd
    exact .terminated h (by simpa using hd) rfl

lemma begins_cons {k : Token.Kind} {t : Token} {ts : List Token} :
    Begins k (t :: ts) ↔ t.kind = k := by
  simp [Begins]

lemma extent_of_getLast? {t u : Token} {ts : List Token} (h : ts.getLast? = some u) :
    extent t ts = spanOf t u := by
  rw [extent, List.getLastD_eq_getLast?, h]
  rfl

lemma extent_last {t u : Token} {us : List Token} (v : Token) (h : us.getLast? = some u) :
    extent t (v :: us) = spanOf t u :=
  extent_of_getLast? (List.mem_getLast?_cons h)

end Grammar

end Scriptlet
