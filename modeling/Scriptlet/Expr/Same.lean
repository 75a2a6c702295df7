import Scriptlet.Expr

/-!
# Trees that say the same

Two trees say the same if they differ at most in the places and the texts that their tokens were
read from. `bare` takes both away, so trees say the same exactly if they are equal when bare
(`same_iff`).
-/

namespace Scriptlet

/-- A parameter without place and text. -/
def Param.bare (p : Param) : Param := { p with typeToken := p.typeToken.bare, span := none }

/-- Whether two parameters say the same. -/
def Param.same (p q : Param) : Bool :=
  p.index = q.index && p.name = q.name && p.typeToken.same q.typeToken

theorem Param.same_iff {p q : Param} : p.same q = true ↔ p.bare = q.bare := by
  simp [same, bare, Token.same_iff, and_assoc]

/-- Whether the members of two lists are pairwise related, with none left over. -/
def pairwiseSame {α : Type} (r : α → α → Bool) : List α → List α → Bool
  | [], [] => true
  | x :: xs, y :: ys => r x y && pairwiseSame r xs ys
  | _, _ => false

theorem pairwiseSame_iff {α β : Type} {r : α → α → Bool} {f : α → β}
    (h : ∀ x y, r x y = true ↔ f x = f y) (xs ys : List α) :
    pairwiseSame r xs ys = true ↔ xs.map f = ys.map f := by
  induction xs generalizing ys with
  | nil => cases ys <;> simp [pairwiseSame]
  | cons x xs ih => cases ys <;> simp [pairwiseSame, h, ih]

namespace Expr

mutual

/-- An expression without places and texts. -/
def bare : Expr → Expr
  | leaf t _ => leaf t.bare none
  | assign target value _ => assign target.bare value.bare none
  | binary op left right _ => binary op left.bare right.bare none
  | call name args _ => call name (bares args) none
  | define name params body returnType _ =>
    define name (params.map Param.bare) (bares body) returnType none
  | ret inner _ => ret inner.bare none
  | hole => hole

/-- Expressions without places and texts. -/
def bares : List Expr → List Expr
  | [] => []
  | e :: es => e.bare :: bares es

end

theorem bares_eq_map (es : List Expr) : bares es = es.map bare := by
  induction es with
  | nil => rfl
  | cons e es ih => simp [bares, ih]

mutual

/-- Whether two expressions say the same. -/
def same : Expr → Expr → Bool
  | leaf s _, leaf t _ => s.same t
  | assign target value _, assign target' value' _ => same target target' && same value value'
  | binary op left right _, binary op' left' right' _ =>
    op = op' && same left left' && same right right'
  | call name args _, call name' args' _ => name = name' && allSame args args'
  | define name params body returnType _, define name' params' body' returnType' _ =>
    name = name' && pairwiseSame Param.same params params' && allSame body body' &&
      returnType = returnType'
  | ret inner _, ret inner' _ => same inner inner'
  | hole, hole => true
  | _, _ => false

/-- Whether two lists of expressions say the same. -/
def allSame : List Expr → List Expr → Bool
  | [], [] => true
  | e :: es, f :: fs => same e f && allSame es fs
  | _, _ => false

end

/-- Lists of expressions say the same if their members do. -/
theorem allSame_iff_of {es : List Expr}
    (h : ∀ e ∈ es, ∀ f, same e f = true ↔ e.bare = f.bare) (fs : List Expr) :
    allSame es fs = true ↔ bares es = bares fs := by
  induction es generalizing fs with
  | nil => cases fs <;> simp [allSame, bares]
  | cons e es ih =>
    cases fs with
    | nil => simp [allSame, bares]
    | cons f fs =>
      simp only [allSame, bares, Bool.and_eq_true, List.cons.injEq]
      rw [h e (by simp), ih fun e' he' => h e' (by simp [he'])]

theorem same_iff (e f : Expr) : same e f = true ↔ e.bare = f.bare := by
  induction e using Expr.induction generalizing f with
  | leaf t s => cases f <;> simp [same, bare, Token.same_iff]
  | assign target value s hl hr => cases f <;> simp [same, bare, hl, hr]
  | binary op left right s hl hr => cases f <;> simp [same, bare, hl, hr, and_assoc]
  | call name args s ih => cases f <;> simp [same, bare, allSame_iff_of ih]
  | define name params body returnType s ih =>
    cases f <;> simp [same, bare, allSame_iff_of ih, and_assoc,
      pairwiseSame_iff fun p q => Param.same_iff (p := p) (q := q)]
  | ret inner s ih => cases f <;> simp [same, bare, ih]
  | hole => cases f <;> simp [same, bare]

end Expr

end Scriptlet
