import Scriptlet.Expr.Reading

/-!
# Reading by index

How expressions are read one token after another: the tokens are kept as they were given, and an
index says which of them is next. It moves past each token that is taken, though never past an end
of input. Where nothing can be read, at the end of input too, the next token becomes an error leaf,
and whoever comes after that reports what is missing there.

Some calls take no token, so it is not plain that reading ends. It is told how deep calls may be
nested, where each turn of a loop counts as a call in the turn before, and reading that goes deeper
is cut off. That no reading goes deeper than some bound, that the index stays within the tokens, and
that what is read is what `readProgram` reads, is not said by these definitions. It is proved of
them.
-/

namespace Scriptlet.Cursor

/-- Why reading is given up. -/
inductive Trouble where
  /-- The tokens are no program. -/
  | error (e : LangError)
  /-- A token was looked for where there is none. -/
  | outOfRange
  /-- Calls were nested deeper than they may be. -/
  | tooDeep
deriving DecidableEq, Repr

/-- Readers move an index, and may give up. -/
abbrev Reader (α : Type) := StateT Nat (Except Trouble) α

section Tokens

variable (ts : List Token)

/-- The token at an index. -/
def tokenAt (i : Nat) : Reader Token :=
  match ts[i]? with
  | some t => return t
  | none => throw .outOfRange

/-- The next token. -/
def current : Reader Token := do
  tokenAt ts (← get)

/-- Takes the next token, unless it is an end of input. -/
def advance : Reader Token := do
  let t ← current ts
  if t.kind = .eof then
    return t
  else
    set ((← get) + 1)
    return t

/-- Takes the next token if it is of this kind, and says whether it was. -/
def accept (kind : Token.Kind) : Reader Bool := do
  if (← current ts).kind = kind then
    let _ ← advance ts
    return true
  else
    return false

/-- Gives up because something is missing in front of the next token. -/
def giveUp {α : Type} (what : String) : Reader α := do
  let t ← current ts
  if t.kind = .eof then
    throw (.error (.located (.unexpectedEnd what) t.span))
  else
    throw (.error (.located (.expected what) t.span))

/-- Takes the next token, which has to be of this kind. -/
def consume (kind : Token.Kind) (what : String) : Reader Token := do
  if (← current ts).kind = kind then
    advance ts
  else
    giveUp ts what

/-- The span from a token to the last one that was taken. -/
def spanFrom (start : Token) : Reader (Option Span) := do
  return spanOf start (← tokenAt ts ((← get) - 1))

/-! ## Headers of definitions -/

/-- Reads parameters, one at least, up to the closing parenthesis. -/
def parseParams (depth index : Nat) : Reader (List Param) :=
  match depth with
  | 0 => throw .tooDeep
  | depth + 1 => do
    let typeToken ← consume ts .typeName "type"
    let name ← consume ts .identifier "identifier"
    let param := Param.ofTokens index typeToken name
    if ← accept ts .rightParen then
      return [param]
    else if ← accept ts .comma then
      return param :: (← parseParams depth (index + 1))
    else
      giveUp ts "comma, or ')'"

/-- Reads what stands between the parentheses of a definition, and the closing one. -/
def parseParamList (depth : Nat) : Reader (List Param) := do
  if ← accept ts .rightParen then
    return []
  else
    parseParams ts depth 0

/-- Reads the clause that names the type of the results, if there is one, and the opening brace. -/
def parseReturnClause : Reader String := do
  if ← accept ts .arrow then
    let returnType ← consume ts .typeName "type"
    let _ ← consume ts .leftBrace "brace"
    return returnType.payload.display
  else if ← accept ts .leftBrace then
    return "_none"
  else
    giveUp ts "return type or brace"

/-- Reads what follows `func`, up to the opening brace. -/
def parseHeader (depth : Nat) : Reader Header := do
  let name ← consume ts .identifier "identifier"
  let _ ← consume ts .leftParen "'('"
  let params ← parseParamList ts depth
  let returnType ← parseReturnClause ts
  return ⟨name.payload.display, params, returnType⟩

/-! ## Expressions and statements -/

mutual

/-- Reads an expression, and the semicolon behind it if it is a statement and no definition. -/
def parseExpr (depth : Nat) (isStatement : Bool) : Reader Expr :=
  match depth with
  | 0 => throw .tooDeep
  | depth + 1 => do
    let start ← advance ts
    let e ← parseBehind depth start
    if isStatement ∧ start.kind ≠ .func then
      let _ ← consume ts .semicolon "semicolon"
      return e
    else
      return e

/-- Reads on behind the first token of an expression. -/
def parseBehind (depth : Nat) (start : Token) : Reader Expr :=
  match depth with
  | 0 => throw .tooDeep
  | depth + 1 =>
    match start.kind with
    | .ret => do
      let inner ← parseExpr depth false
      return .ret inner (← spanFrom ts start)
    | .identifier => do
      if ← accept ts .assign then
        let value ← parseExpr depth false
        return .assign (.leaf start start.span) value (← spanFrom ts start)
      else if ← accept ts .leftParen then
        let args ← parseArgList depth
        return .call start.payload.display args (← spanFrom ts start)
      else
        parseChain depth start
    | .intLiteral => parseChain depth start
    | .boolLiteral | .stringLiteral => return .leaf start start.span
    | .func => do
      let header ← parseHeader ts depth
      let body ← parseBlock depth
      return .define header.name header.params body header.returnType (← spanFrom ts start)
    | _ => return .leaf start.asError start.span

/-- Reads on behind a left operand. -/
def parseChain (depth : Nat) (start : Token) : Reader Expr :=
  match depth with
  | 0 => throw .tooDeep
  | depth + 1 => do
    let symbol ← current ts
    if ← accept ts .operator then
      match Connective.ofSymbol? symbol.payload.display with
      | none => throw (.error (.located (.unknownOperator symbol.payload.display) symbol.span))
      | some c =>
        let right ← parseExpr depth false
        return .join c (.leaf start start.span) right (← spanFrom ts start)
    else
      return .leaf start start.span

/-- Reads what stands between the parentheses of a call, and the closing one. -/
def parseArgList (depth : Nat) : Reader (List Expr) :=
  match depth with
  | 0 => throw .tooDeep
  | depth + 1 => do
    if ← accept ts .rightParen then
      return []
    else
      parseArgs depth

/-- Reads arguments, one at least, up to the closing parenthesis. -/
def parseArgs (depth : Nat) : Reader (List Expr) :=
  match depth with
  | 0 => throw .tooDeep
  | depth + 1 => do
    let arg ← parseExpr depth false
    if ← accept ts .rightParen then
      return [arg]
    else if ← accept ts .comma then
      return arg :: (← parseArgs depth)
    else
      giveUp ts "comma, or ')'"

/-- Reads the statements of a body, up to the closing brace. -/
def parseBlock (depth : Nat) : Reader (List Expr) :=
  match depth with
  | 0 => throw .tooDeep
  | depth + 1 => do
    if ← accept ts .rightBrace then
      return []
    else if (← current ts).kind = .eof then
      giveUp ts "'\x7d'"
    else
      let first ← parseExpr depth true
      return first :: (← parseBlock depth)

end

/-- Reads statements up to an end of input. -/
def parseStatements (depth : Nat) : Reader (List Expr) :=
  match depth with
  | 0 => throw .tooDeep
  | depth + 1 => do
    if (← current ts).kind = .eof then
      return []
    else
      let first ← parseExpr ts depth true
      return first :: (← parseStatements depth)

end Tokens

/-- The tokens with an end of input behind them, if the last of them is none. -/
def withEnd (ts : List Token) : List Token :=
  if ts.getLast?.map Token.kind = some .eof then ts else ts ++ [{ kind := .eof }]

/-- Reads a program from the first of the tokens on. -/
def parse (depth : Nat) (ts : List Token) : Except Trouble (List Expr) :=
  (parseStatements (withEnd ts) depth).run' 0

end Scriptlet.Cursor
