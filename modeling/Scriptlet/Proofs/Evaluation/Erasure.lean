import Mathlib.Tactic.Lemma
import Scriptlet.Proofs.Evaluation.Rules

/-!
# Erasing places and spellings

`plain` takes the places away from trees and from all that evaluation makes of them, and the texts
of the literals in them, which serve diagnostics only.  The text of any other token stays: error
leaves are named by it.
-/

namespace Scriptlet

/-- The token without its place, and without its text if it is a literal. -/
def Token.plain (t : Token) : Token :=
  { t with span := none, lexeme := if (Eval.literal? t).isSome then "" else t.lexeme }

namespace Token

@[simp] lemma kind_plain (t : Token) : t.plain.kind = t.kind := rfl

@[simp] lemma payload_plain (t : Token) : t.plain.payload = t.payload := rfl

@[simp] lemma literal?_plain (t : Token) : Eval.literal? t.plain = Eval.literal? t := rfl

lemma lexeme_plain {t : Token} (h : Eval.literal? t = none) : t.plain.lexeme = t.lexeme := by
  simp [plain, h]

/-- What a token is printed as does not depend on how it was spelled, if it is a literal. -/
@[simp] lemma text_plain (t : Token) : t.plain.text = t.text := by
  obtain ⟨kind, payload, lexeme, span⟩ := t
  cases kind <;> rfl

end Token

/-- The parameter with another token for its type, and without its place. -/
def Param.mapToken (f : Token → Token) (p : Param) : Param :=
  { p with typeToken := f p.typeToken, span := none }

namespace Expr

mutual

/-- The tree with other tokens, and without places. -/
def mapTokens (f : Token → Token) : Expr → Expr
  | leaf t _ => leaf (f t) none
  | assign target value _ => assign (mapTokens f target) (mapTokens f value) none
  | binary op left right _ => binary op (mapTokens f left) (mapTokens f right) none
  | call name args _ => call name (mapAllTokens f args) none
  | define name ps body returnType _ =>
    define name (ps.map (Param.mapToken f)) (mapAllTokens f body) returnType none
  | ret inner _ => ret (mapTokens f inner) none
  | hole => hole

/-- The trees with other tokens, and without places. -/
def mapAllTokens (f : Token → Token) : List Expr → List Expr
  | [] => []
  | e :: es => mapTokens f e :: mapAllTokens f es

end

lemma mapAllTokens_eq_map (f : Token → Token) (es : List Expr) :
    mapAllTokens f es = es.map (mapTokens f) := by
  induction es with
  | nil => rfl
  | cons e es ih => rw [mapAllTokens, ih, List.map_cons]

/-- The tree without places, and without the texts of literals. -/
def plain (e : Expr) : Expr := e.mapTokens Token.plain

/-- The trees without places, and without the texts of literals. -/
def plains (es : List Expr) : List Expr := es.map plain

@[simp] lemma plain_leaf (t : Token) (s : Option Span) :
    (leaf t s).plain = leaf t.plain none := rfl

@[simp] lemma plain_assign (target value : Expr) (s : Option Span) :
    (assign target value s).plain = assign target.plain value.plain none := rfl

@[simp] lemma plain_binary (op : Operator) (left right : Expr) (s : Option Span) :
    (binary op left right s).plain = binary op left.plain right.plain none := rfl

@[simp] lemma plain_call (name : String) (args : List Expr) (s : Option Span) :
    (call name args s).plain = call name (plains args) none := by
  rw [plain, mapTokens, mapAllTokens_eq_map]
  rfl

@[simp] lemma plain_define (name : String) (ps : List Param) (body : List Expr)
    (returnType : String) (s : Option Span) :
    (define name ps body returnType s).plain =
      define name (ps.map (Param.mapToken Token.plain)) (plains body) returnType none := by
  rw [plain, mapTokens, mapAllTokens_eq_map]
  rfl

@[simp] lemma plain_ret (inner : Expr) (s : Option Span) :
    (ret inner s).plain = ret inner.plain none := rfl

@[simp] lemma plain_hole : hole.plain = hole := rfl

@[simp] lemma plains_nil : plains [] = [] := rfl

@[simp] lemma plains_cons (e : Expr) (es : List Expr) :
    plains (e :: es) = e.plain :: plains es := rfl

lemma identifier?_plain (e : Expr) : e.plain.identifier? = e.identifier?.map Token.plain := by
  cases e with
  | leaf t s =>
    by_cases h : t.kind = .identifier <;> simp [identifier?, h]
  | _ => simp [identifier?]

lemma terminator_plain (e : Expr) : e.plain.terminator = e.terminator := by
  cases e <;> simp [terminator, isDefinition]

lemma inOrder_mapToken (f : Token → Token) (ps : List Param) :
    Param.inOrder (ps.map (Param.mapToken f)) = (Param.inOrder ps).map (Param.mapToken f) := by
  unfold Param.inOrder
  rw [List.map_mergeSort]
  exact fun _ _ _ _ => rfl

lemma paramText_mapToken (p : Param) : paramText (p.mapToken Token.plain) = paramText p := by
  simp [paramText, Param.mapToken]

/-- What a tree is printed as does not depend on places and spellings. -/
@[simp] lemma text_plain (e : Expr) : e.plain.text = e.text := by
  induction e using Expr.induction with
  | leaf t s => exact t.text_plain
  | assign target value s ihl ihr | binary op target value s ihl ihr => simp [text, ihl, ihr]
  | call name args s ih =>
    have hargs : texts (plains args) = texts args := by
      rw [texts_eq_map, texts_eq_map, plains, List.map_map]
      exact List.map_congr_left ih
    rw [plain_call, text, text, hargs]
  | define name ps body returnType s ih =>
    have hbody : statementTexts (plains body) = statementTexts body := by
      rw [statementTexts_eq_map, statementTexts_eq_map, plains, List.map_map]
      refine List.map_congr_left fun e he => ?_
      rw [Function.comp_apply, ih e he, terminator_plain]
    have hparams : (Param.inOrder (ps.map (Param.mapToken Token.plain))).map paramText =
        (Param.inOrder ps).map paramText := by
      rw [inOrder_mapToken, List.map_map]
      exact List.map_congr_left fun p _ => paramText_mapToken p
    rw [plain_define, text, text, hbody, hparams]
  | ret inner s ih => simp [text, ih]
  | hole => rfl

end Expr

/-! ## Values, scopes and failures -/

/-- The function without the places and spellings in its body. -/
def UserFunction.plain (f : UserFunction) : UserFunction := { f with body := Expr.plains f.body }

namespace Value

/-- The value without the places and spellings in it. -/
def plain : Value → Value
  | fn (.user f) => fn (.user f.plain)
  | v => v

@[simp] lemma type_plain (v : Value) : v.plain.type = v.type := by
  rcases v with _ | _ | _ | (_ | _) | _ <;> rfl

@[simp] lemma display_plain (v : Value) : v.plain.display = v.display := by
  rcases v with _ | _ | _ | (_ | _) | _ <;> rfl

lemma plain_of_ne {v : Value} (h : ∀ f, v ≠ fn f) : v.plain = v := by
  rcases v with _ | _ | _ | f | _
  · rfl
  · rfl
  · rfl
  · exact absurd rfl (h f)
  · rfl

end Value

namespace Scope

/-- The scope without the places and spellings in what it binds. -/
def plain (s : Scope) : Scope where
  name := s.name
  bindings := s.bindings.map fun b => (b.1, b.2.plain)
  distinct := by
    rw [List.map_map]
    exact s.distinct

lemma get?_plain (s : Scope) (x : String) : s.plain.get? x = (s.get? x).map Value.plain := by
  unfold get? plain
  dsimp only
  induction s.bindings with
  | nil => rfl
  | cons b bs ih =>
    rw [List.map_cons, Keyed.get?_cons, Keyed.get?_cons]
    split
    · rfl
    · exact ih

lemma plain_set (s : Scope) (x : String) (v : Value) :
    (s.set x v).plain = s.plain.set x v.plain := by
  have hput (bs : List (String × Value)) :
      (Keyed.put Prod.fst (x, v) bs).map (fun b => (b.1, b.2.plain)) =
        Keyed.put Prod.fst (x, v.plain) (bs.map fun b => (b.1, b.2.plain)) := by
    induction bs with
    | nil => rfl
    | cons b bs ih =>
      simp only [Keyed.put, List.map_cons]
      split
      · rfl
      · rw [List.map_cons, ih]
  simp only [plain, set, hput]

end Scope

/-- The failure without the place that it points at. -/
def Failure.plain : Failure → Failure
  | language e => language { cause := e.cause }
  | f => f

@[simp] lemma Failure.plain_located (cause : Cause) (s : Option Span) :
    (Failure.located cause s).plain = .located cause none := rfl

namespace Eval

/-- What comes to a result or fails, without the places and spellings in it. -/
def plainResult {α : Type} (f : α → α) : Except Failure α → Except Failure α
  | .ok a => .ok (f a)
  | .error e => .error e.plain

@[simp] lemma plainResult_ok {α : Type} (f : α → α) (a : α) :
    plainResult f (.ok a) = .ok (f a) := rfl

@[simp] lemma plainResult_error {α : Type} (f : α → α) (e : Failure) :
    plainResult f (.error e : Except Failure α) = .error e.plain := rfl

/-! ## The parts of evaluation -/

lemma literal?_eq_plain {t : Token} {v : Value} (h : literal? t = some v) : v.plain = v := by
  unfold literal? at h
  split at h <;> cases h <;> rfl

/-- Operators look at no function. -/
lemma apply_plain (op : Operator) (l r : Value) : op.apply l.plain r.plain = op.apply l r := by
  rcases l with _ | _ | _ | (_ | _) | _ <;> rcases r with _ | _ | _ | (_ | _) | _ <;>
    cases op <;> rfl

lemma resolveType_plain (typeText : String) (s : Option Span) :
    resolveType typeText none = plainResult id (resolveType typeText s) := by
  unfold resolveType
  split <;> rfl

lemma resolve_plain (p : Param) :
    (p.mapToken Token.plain).resolve = plainResult id p.resolve := by
  unfold Param.resolve
  show (resolveType p.typeToken.payload.display none >>= _) = _
  rw [resolveType_plain p.typeToken.payload.display p.span]
  cases resolveType p.typeToken.payload.display p.span <;> rfl

lemma mapM_resolve_plain (ps : List Param) :
    (ps.map (Param.mapToken Token.plain)).mapM Param.resolve =
      plainResult id (ps.mapM Param.resolve) := by
  induction ps with
  | nil => rfl
  | cons p ps ih =>
    rw [List.map_cons, List.mapM_cons, List.mapM_cons, resolve_plain, ih]
    cases p.resolve with
    | error e => rfl
    | ok q => cases ps.mapM Param.resolve <;> rfl

lemma resolveSignature_plain (ps : List Param) (returnType : String) (s : Option Span) :
    resolveSignature (ps.map (Param.mapToken Token.plain)) returnType none =
      plainResult id (resolveSignature ps returnType s) := by
  unfold resolveSignature
  rw [mapM_resolve_plain, resolveType_plain returnType s]
  cases ps.mapM Param.resolve with
  | error e => rfl
  | ok params => cases resolveType returnType s <;> rfl

lemma argumentAt?_map (vs : List Value) (index : Int) :
    argumentAt? (vs.map Value.plain) index = (argumentAt? vs index).map Value.plain := by
  unfold argumentAt?
  rw [List.length_map, List.getElem?_map, List.getElem?_map]
  split
  · rfl
  · split <;> rfl

lemma passesCheck_plain (settings : Settings) (type : ValueType) (v : Value) :
    passesCheck settings type v.plain = passesCheck settings type v := by
  rw [passesCheck, passesCheck, Value.type_plain]

lemma bindArguments_plain (settings : Settings) (function : String) (vs : List Value)
    (span : Option Span) (ps : List TypedParam) (s : Scope) :
    bindArguments settings function (vs.map Value.plain) none ps s.plain =
      plainResult Scope.plain (bindArguments settings function vs span ps s) := by
  induction ps generalizing s with
  | nil => rfl
  | cons p ps ih =>
    rw [bindArguments, bindArguments, argumentAt?_map]
    cases argumentAt? vs p.index with
    | none => rfl
    | some v =>
      simp only [Option.map_some, passesCheck_plain, Value.type_plain]
      split
      · rw [← Scope.plain_set]
        exact ih (s.set p.name v)
      · rfl

lemma callScope_plain (c : Context) (f : UserFunction) (vs : List Value) (span : Option Span)
    (s : Scope) :
    callScope c f.plain (vs.map Value.plain) none s.plain =
      plainResult Scope.plain (callScope c f vs span s) :=
  bindArguments_plain c.settings f.name vs span f.params (s.snapshot ("call:" ++ f.name))

lemma checkResult_plain (settings : Settings) (f : UserFunction) (span : Option Span) (v : Value) :
    checkResult settings f.plain none v.plain =
      plainResult Value.plain (checkResult settings f span v) := by
  unfold checkResult
  rw [passesCheck_plain, Value.type_plain]
  show (if f.returnType = .nothing || passesCheck settings f.returnType v then _ else _) = _
  split <;> rfl

lemma depthFailure_plain (limit : Int) (s : Option Span) :
    (depthFailure limit s).plain = depthFailure limit none := by
  unfold depthFailure
  split <;> rfl

end Eval

end Scriptlet
