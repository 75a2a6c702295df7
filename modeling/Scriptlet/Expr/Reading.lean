import Scriptlet.Expr
import Scriptlet.LangError

/-!
# Reading expressions off tokens

There is no table of precedences: what follows an operator, up to the end of the expression, is
its right operand, so that `2 * 3 + 4` is `2 * (3 + 4)`. Only names and integer literals may be
left operands. A token that starts no expression is read as a leaf of its own, which evaluation
then rejects.

Whoever reads an expression says what has to follow it. Where the tokens end too early, that is
what is missing, however deep in the expression they end. Every reading takes at least one token
(`Reading.shorter`), which is why reading ends.
-/

namespace Scriptlet

/-- What is told of a definition once it is read to its closing brace. -/
structure Heading where
  /-- The name of the function. -/
  name : String
  /-- The number of its parameters. -/
  parameters : Nat
deriving DecidableEq, Repr

namespace Expr

mutual

/-- The definitions in an expression, in the order of their closing braces. -/
def headings : Expr → List Heading
  | leaf .. | hole => []
  | assign target value _ => target.headings ++ value.headings
  | binary _ left right _ => left.headings ++ right.headings
  | call _ args _ => allHeadings args
  | define name params body _ _ => allHeadings body ++ [⟨name, params.length⟩]
  | ret inner _ => inner.headings

/-- The definitions in expressions, in the order of their closing braces. -/
def allHeadings : List Expr → List Heading
  | [] => []
  | e :: es => e.headings ++ allHeadings es

end

theorem allHeadings_eq_flatMap (es : List Expr) : allHeadings es = es.flatMap headings := by
  induction es with
  | nil => rfl
  | cons e es ih => simp [allHeadings, ih]

end Expr

/-- Where and why reading stopped. -/
structure Stop where
  /-- What is wrong with the tokens. -/
  error : LangError
  /-- The tokens from the one on that cannot stand where it does. -/
  rest : List Token
  /-- The definitions that were read to their closing braces before. -/
  read : List Heading := []
deriving DecidableEq, Repr

/-- The same stop, reached behind further definitions. -/
def Stop.behind (read : List Heading) (s : Stop) : Stop := { s with read := read ++ s.read }

/-- Something read off the start of a list of tokens. -/
structure Reading (α : Type) (ts : List Token) where
  /-- What was read. -/
  value : α
  /-- The last token that was taken. -/
  last : Token
  /-- The tokens that are left. -/
  rest : List Token
  /-- At least one token was taken. -/
  shorter : rest.length < ts.length

/-- The span of a node, given the first and the last token that it was read from. -/
def spanOf (first last : Token) : Option Span :=
  match first.span, last.span with
  | some start, some stop => some (start.cover stop)
  | start, _ => start

namespace Reading

/-- A reading that took one token more at the start. -/
def cons {α β : Type} {ts : List Token} (t : Token) (r : Reading α ts) (f : α → Token → β) :
    Reading β (t :: ts) :=
  ⟨f r.value r.last, r.last, r.rest, Nat.lt_succ_of_lt r.shorter⟩

/-- The reading of a single token. -/
def one {α : Type} (t : Token) (ts : List Token) (value : α) : Reading α (t :: ts) :=
  ⟨value, t, ts, Nat.lt_succ_self _⟩

/-- A reading that went on behind another one. -/
def trans {α β γ : Type} {ts : List Token} (r : Reading α ts) (s : Reading β r.rest)
    (f : α → β → γ) : Reading γ ts :=
  ⟨f r.value s.value, s.last, s.rest, Nat.lt_trans s.shorter r.shorter⟩

end Reading

/-- Stopping because something is missing in front of the tokens that are left, or where they end.
-/
def missing (ending : Option Span) (what : String) : List Token → Stop
  | [] => { error := .located (.unexpectedEnd what) ending, rest := [] }
  | t :: rest => { error := .located (.expected what) t.span, rest := t :: rest }

/-- Takes a token of a given kind. -/
def takeToken (ending : Option Span) (kind : Token.Kind) (what : String) (ts : List Token) :
    Except Stop (Reading Token ts) :=
  match ts with
  | [] => .error (missing ending what [])
  | t :: rest =>
    if t.kind = kind then .ok (.one t rest t) else .error (missing ending what (t :: rest))

/-! ## Parameters and headers of definitions -/

/-- The parameter of a given place, from its two tokens. -/
def Param.ofTokens (index : Nat) (typeToken name : Token) : Param :=
  ⟨index, name.payload.display, typeToken, typeToken.span⟩

/-- Reads parameters, one at least, up to the closing parenthesis. -/
def readParams (ending : Option Span) (index : Nat) (ts : List Token) :
    Except Stop (Reading (List Param) ts) := do
  let typeToken ← takeToken ending .typeName "type" ts
  let name ← takeToken ending .identifier "identifier" typeToken.rest
  let pair := typeToken.trans name (Param.ofTokens index)
  match _next : pair.rest with
  | [] => .error (missing ending "comma, or ')'" [])
  | t :: rest =>
    if t.kind = .rightParen then
      .ok ⟨[pair.value], t, rest, by
        have := pair.shorter; rw [_next] at this; exact Nat.lt_of_succ_lt this⟩
    else if t.kind = .comma then do
      let more ← readParams ending (index + 1) rest
      .ok ⟨pair.value :: more.value, more.last, more.rest, by
        have := pair.shorter
        have := more.shorter
        simp only [_next, List.length_cons] at *
        omega⟩
    else .error (missing ending "comma, or ')'" (t :: rest))
termination_by ts.length
decreasing_by
  have := pair.shorter
  simp only [_next, List.length_cons] at this
  omega

/-- Reads what stands between the parentheses of a definition, and the closing one. -/
def readParamList (ending : Option Span) (ts : List Token) :
    Except Stop (Reading (List Param) ts) :=
  match ts with
  | [] => readParams ending 0 []
  | t :: rest =>
    if t.kind = .rightParen then .ok (.one t rest []) else readParams ending 0 (t :: rest)

/-- Reads the clause that names the type of the results, if there is one, and the opening brace. -/
def readReturnClause (ending : Option Span) (ts : List Token) :
    Except Stop (Reading String ts) :=
  match ts with
  | [] => .error (missing ending "return type or brace" [])
  | t :: rest =>
    if t.kind = .arrow then do
      let returnType ← takeToken ending .typeName "type" rest
      let brace ← takeToken ending .leftBrace "brace" returnType.rest
      .ok ((returnType.trans brace fun returnType _ => returnType.payload.display).cons t
        fun returnType _ => returnType)
    else if t.kind = .leftBrace then .ok (.one t rest "_none")
    else .error (missing ending "return type or brace" (t :: rest))

/-- What stands before the body of a definition. -/
structure Header where
  /-- The name of the function. -/
  name : String
  /-- Its parameters. -/
  params : List Param
  /-- The annotation of its results. -/
  returnType : String

/-- Reads what follows `func`, up to the opening brace. -/
def readHeader (ending : Option Span) (ts : List Token) : Except Stop (Reading Header ts) := do
  let name ← takeToken ending .identifier "identifier" ts
  let paren ← takeToken ending .leftParen "'('" name.rest
  let params ← readParamList ending paren.rest
  let returnType ← readReturnClause ending params.rest
  .ok <| name.trans (paren.trans (params.trans returnType Prod.mk) fun _ p => p)
    fun name (params, returnType) => ⟨name.payload.display, params, returnType⟩

/-! ## Expressions and statements -/

/-- What was read behind an expression: if it stopped, the definitions in that expression were
read before. -/
def behind {α : Type} (e : Expr) (x : Except Stop α) : Except Stop α :=
  x.mapError fun stop => stop.behind e.headings

mutual

/-- Reads an expression, behind which `follow` is expected. -/
def readExpr (ending : Option Span) (follow : String) (ts : List Token) :
    Except Stop (Reading Expr ts) :=
  match ts with
  | [] => .error (missing ending follow [])
  | t :: rest =>
    match t.kind with
    | .ret => do
      let inner ← readExpr ending follow rest
      .ok (inner.cons t fun inner last => .ret inner (spanOf t last))
    | .identifier =>
      match rest with
      | [] => .ok (.one t [] (.leaf t t.span))
      | u :: rest =>
        if u.kind = .assign then do
          let value ← readExpr ending follow rest
          .ok ((value.cons u Prod.mk).cons t fun (value, last) _ =>
            .assign (.leaf t t.span) value (spanOf t last))
        else if u.kind = .leftParen then do
          let args ← readArgList ending rest
          .ok ((args.cons u Prod.mk).cons t fun (args, last) _ =>
            .call t.payload.display args (spanOf t last))
        else readChain ending follow t (u :: rest)
    | .intLiteral => readChain ending follow t rest
    | .boolLiteral | .stringLiteral => .ok (.one t rest (.leaf t t.span))
    | .func => readDefinition ending t rest
    | _ => .ok (.one t rest (.leaf t.asError t.span))
termination_by 4 * ts.length + 1

/-- Reads on behind a left operand. -/
def readChain (ending : Option Span) (follow : String) (t : Token) (ts : List Token) :
    Except Stop (Reading Expr (t :: ts)) :=
  match ts with
  | [] => .ok (.one t [] (.leaf t t.span))
  | u :: rest =>
    if u.kind = .operator then
      match Connective.ofSymbol? u.payload.display with
      | none => .error
          { error := .located (.unknownOperator u.payload.display) u.span, rest := u :: rest }
      | some c => do
        let right ← readExpr ending follow rest
        .ok ((right.cons u Prod.mk).cons t fun (right, last) _ =>
          .join c (.leaf t t.span) right (spanOf t last))
    else .ok (.one t (u :: rest) (.leaf t t.span))
termination_by 4 * ts.length + 0

/-- Reads what stands between the parentheses of a call, and the closing one. -/
def readArgList (ending : Option Span) (ts : List Token) : Except Stop (Reading (List Expr) ts) :=
  match ts with
  | [] => readArgs ending []
  | t :: rest =>
    if t.kind = .rightParen then .ok (.one t rest []) else readArgs ending (t :: rest)
termination_by 4 * ts.length + 3

/-- Reads arguments, one at least, up to the closing parenthesis. -/
def readArgs (ending : Option Span) (ts : List Token) : Except Stop (Reading (List Expr) ts) := do
  let arg ← readExpr ending "comma, or ')'" ts
  match _next : arg.rest with
  | [] => behind arg.value (.error (missing ending "comma, or ')'" []))
  | t :: rest =>
    if t.kind = .rightParen then
      .ok ⟨[arg.value], t, rest, by
        have := arg.shorter; rw [_next] at this; exact Nat.lt_of_succ_lt this⟩
    else if t.kind = .comma then do
      let more ← behind arg.value (readArgs ending rest)
      .ok ⟨arg.value :: more.value, more.last, more.rest, by
        have := arg.shorter
        have := more.shorter
        simp only [_next, List.length_cons] at *
        omega⟩
    else behind arg.value (.error (missing ending "comma, or ')'" (t :: rest)))
termination_by 4 * ts.length + 2
decreasing_by
  · omega
  · have := arg.shorter
    simp only [_next, List.length_cons] at this
    omega

/-- Reads a definition behind its `func`. -/
def readDefinition (ending : Option Span) (t : Token) (ts : List Token) :
    Except Stop (Reading Expr (t :: ts)) := do
  let header ← readHeader ending ts
  let body ← readBody ending header.rest
  let whole := (header.trans body Prod.mk).cons t Prod.mk
  .ok { whole with
    value := .define header.value.name header.value.params body.value header.value.returnType
      (spanOf t body.last) }
termination_by 4 * ts.length + 0
decreasing_by
  have := header.shorter
  omega

/-- Reads the statements of a body, up to the closing brace. -/
def readBody (ending : Option Span) (ts : List Token) : Except Stop (Reading (List Expr) ts) :=
  match ts with
  | [] => .error (missing ending "'\x7d'" [])
  | t :: rest =>
    if t.kind = .rightBrace then .ok (.one t rest [])
    else do
      let first ← readStatement ending (t :: rest)
      let more ← behind first.value (readBody ending first.rest)
      .ok (first.trans more (· :: ·))
termination_by 4 * ts.length + 3
decreasing_by
  · omega
  · have := first.shorter
    omega

/-- Reads a statement: a definition, or an expression and a semicolon. -/
def readStatement (ending : Option Span) (ts : List Token) : Except Stop (Reading Expr ts) := do
  let e ← readExpr ending "semicolon" ts
  if e.value.isDefinition then .ok e
  else do
    let semicolon ← behind e.value (takeToken ending .semicolon "semicolon" e.rest)
    .ok (e.trans semicolon fun e _ => e)
termination_by 4 * ts.length + 2

end

/-- Reads statements up to the end of the tokens. -/
def readStatements (ending : Option Span) (ts : List Token) : Except Stop (List Expr) :=
  match ts with
  | [] => .ok []
  | t :: rest => do
    let first ← readStatement ending (t :: rest)
    let more ← behind first.value (readStatements ending first.rest)
    .ok (first.value :: more)
termination_by ts.length
decreasing_by exact first.shorter

/-- Reads a program: statements up to the first token of kind `eof`, or up to the last token. -/
def readProgram (ts : List Token) : Except Stop (List Expr) :=
  let ending := (ts.find? (·.kind = .eof)).bind (·.span)
  readStatements ending (ts.takeWhile (·.kind ≠ .eof))

end Scriptlet
