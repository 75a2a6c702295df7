import Mathlib.Algebra.Order.Group.Int
import Mathlib.Algebra.Order.Ring.Abs
import Scriptlet.Proofs.Evaluation.Agreement

/-!
# Division

Integers are divided by dividing their absolute values, and the sign is set afterwards.  The result
is the quotient that is rounded toward zero (`isQuotient_iff`), which is what an expression with `/`
evaluates to unless its right operand is zero (`Eval.division_truncates`).
-/

namespace Scriptlet

/-- `q` is the quotient of `l` and `r`, rounded toward zero. -/
structure IsQuotient (l r q : Int) : Prop where
  /-- What is left over is smaller than the divisor. -/
  remainder : |l - q * r| < |r|
  /-- No more is divided out than there is. -/
  within : |q * r| ≤ |l|
  /-- What is divided out is on the same side of zero. -/
  sign : q * r = 0 ∨ (q * r).sign = l.sign

lemma truncatingDiv_eq_tdiv (l r : Int) : truncatingDiv l r = l.tdiv r := by
  have hnonneg (n : Nat) : ¬ ((n : Int) < 0) := Int.not_lt.2 (Int.natCast_nonneg n)
  cases l with
  | ofNat m => cases r <;> simp [truncatingDiv, Int.tdiv, hnonneg]
  | negSucc m => cases r <;> simp [truncatingDiv, Int.tdiv, hnonneg]

section

variable {l r q q' : Int}

lemma isQuotient_tdiv (hr : r ≠ 0) : IsQuotient l r (l.tdiv r) := by
  constructor
  case remainder =>
    have hrest : l - l.tdiv r * r = l.tmod r := by rw [Int.tmod_def, Int.mul_comm]
    rw [hrest, Int.abs_eq_natAbs, Int.abs_eq_natAbs, Int.natAbs_tmod]
    exact_mod_cast Nat.mod_lt _ (Int.natAbs_pos.2 hr)
  case within =>
    rw [Int.abs_eq_natAbs, Int.abs_eq_natAbs, Int.natAbs_mul, Int.natAbs_tdiv]
    exact_mod_cast Nat.div_mul_le_self _ _
  case sign =>
    have hsign := Int.sign_tdiv l r
    split at hsign
    · exact .inl (by rw [Int.sign_eq_zero_iff_zero.1 hsign, Int.zero_mul])
    · refine .inr ?_
      rw [Int.sign_mul, hsign, Int.mul_assoc, ← Int.sign_mul,
        Int.sign_eq_one_of_pos (mul_self_pos.2 hr), Int.mul_one]

/-- What is divided out lies between zero and the dividend. -/
lemma IsQuotient.between (h : IsQuotient l r q) :
    0 ≤ q * r ∧ q * r ≤ l ∨ l ≤ q * r ∧ q * r ≤ 0 := by
  have hwithin := h.within
  rw [Int.abs_eq_natAbs, Int.abs_eq_natAbs] at hwithin
  rcases h.sign with hzero | hsign
  · omega
  · -- the sign says on which side of zero the two are, and then the sizes decide
    rcases lt_trichotomy l 0 with hneg | rfl | hpos
    · rw [Int.sign_eq_neg_one_of_neg hneg, Int.sign_eq_neg_one_iff_neg] at hsign
      omega
    · omega
    · rw [Int.sign_eq_one_of_pos hpos, Int.sign_eq_one_iff_pos] at hsign
      omega

/-- Two multiples of the divisor between zero and the dividend, each less than the divisor away from
the dividend, are the same. -/
lemma IsQuotient.unique (h : IsQuotient l r q) (h' : IsQuotient l r q') : q = q' := by
  have hdist : |q * r - q' * r| < |r| := by
    have hrest := abs_lt.1 h.remainder
    have hrest' := abs_lt.1 h'.remainder
    have hside := h.between
    have hside' := h'.between
    refine abs_lt.2 ⟨?_, ?_⟩ <;> omega
  rw [← sub_mul, abs_mul] at hdist
  have hone : |q - q'| < 1 := lt_of_mul_lt_mul_right (by rwa [one_mul]) (abs_nonneg r)
  exact sub_eq_zero.1 (Int.abs_lt_one_iff.1 hone)

/-- Division rounds toward zero, and there is one way only to do so. -/
theorem isQuotient_iff : IsQuotient l r q ↔ r ≠ 0 ∧ q = truncatingDiv l r := by
  rw [truncatingDiv_eq_tdiv]
  constructor
  · intro h
    have hr : r ≠ 0 := by
      rintro rfl
      exact absurd h.remainder (by simp)
    exact ⟨hr, h.unique (isQuotient_tdiv hr)⟩
  · rintro ⟨hr, rfl⟩
    exact isQuotient_tdiv hr

end

namespace Eval

variable {d : Nat} {c : Context} {left right : Expr} {m m₁ m₂ : Machine d}

/-- The operand has the value `v`, and what it leaves is not returning. -/
def Yields (c : Context) (e : Expr) (m : Machine d) (v : Value) (m' : Machine d) : Prop :=
  eval c d e m = (.ok v, m') ∧ m'.stack.returned? = none

lemma eval_binary {l r : Value} (hl : Yields c left m l m₁) (hr : Yields c right m₁ r m₂)
    (op : Operator) (span : Option Span) :
    eval c d (.binary op left right span) m =
      ((op.apply l r).mapError fun cause => .located cause span, m₂) := by
  obtain ⟨hl, hl'⟩ := hl
  obtain ⟨hr, hr'⟩ := hr
  rw [eval_eq] at hl hr ⊢
  simp [evalWith, hl, hr, unlessReturning_apply, hl', hr']

/-- **Division rounds toward zero.**  There is one integer that is the quotient rounded toward zero,
unless the divisor is zero, and it changes its sign with either of the two.  An expression that
divides one integer by another fails if the divisor is zero, and only then; otherwise this quotient
is its value.  Nothing happens but what its operands do. -/
theorem division_truncates (l r : Int) :
    (∀ q, IsQuotient l r q ↔ r ≠ 0 ∧ q = truncatingDiv l r) ∧
    truncatingDiv (-l) r = -truncatingDiv l r ∧ truncatingDiv l (-r) = -truncatingDiv l r ∧
    ∀ {d : Nat} (c : Context) (left right : Expr) (span : Option Span) (m m₁ m₂ : Machine d),
      Yields c left m (.int l) m₁ → Yields c right m₁ (.int r) m₂ →
      (eval c d (.binary .div left right span) m =
        (.error (.located .divisionByZero span), m₂) ↔ r = 0) ∧
      (r ≠ 0 → eval c d (.binary .div left right span) m =
        (.ok (.int (truncatingDiv l r)), m₂)) := by
  refine ⟨fun q => isQuotient_iff, ?_, ?_, ?_⟩
  · rw [truncatingDiv_eq_tdiv, truncatingDiv_eq_tdiv, Int.neg_tdiv]
  · rw [truncatingDiv_eq_tdiv, truncatingDiv_eq_tdiv, Int.tdiv_neg]
  · intro d c left right span m m₁ m₂ hl hr
    rw [eval_binary hl hr]
    by_cases hzero : r = 0
    · simp [Operator.apply, hzero, Except.mapError]
    · simp [Operator.apply, hzero, Except.mapError]

/-- The right operand of `-7 / 10 / -4` is itself a division, which comes to `-2`. -/
theorem division_truncates_nested :
    let c : Context := ⟨{}, {}⟩
    let m : Machine 0 := .atTop {}
    let digit (n : Int) : Expr := .leaf (.ofInt n) none
    let right : Expr := .binary .div (digit 10) (digit (-4)) none
    Yields c (digit (-7)) m (.int (-7)) m ∧ Yields c right m (.int (-2)) m ∧
      IsQuotient (-7) (-2) 3 ∧
      eval c 0 (.binary .div (digit (-7)) right none) m = (.ok (.int 3), m) := by
  intro c m digit right
  have hdigit (n : Int) : Yields c (digit n) m (.int n) m := ⟨by rw [eval_eq]; rfl, rfl⟩
  have hright : Yields c right m (.int (-2)) m :=
    ⟨(eval_binary (hdigit 10) (hdigit (-4)) .div none).trans rfl, rfl⟩
  obtain ⟨hquotient, -, -, heval⟩ := division_truncates (-7) (-2)
  refine ⟨hdigit (-7), hright, (hquotient 3).2 ⟨by decide, by decide⟩, ?_⟩
  exact (heval c _ _ none m m m (hdigit (-7)) hright).2 (by decide)

end Eval

end Scriptlet
