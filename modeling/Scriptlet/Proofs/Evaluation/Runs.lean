import Scriptlet.Program
import Scriptlet.Proofs.Evaluation.Agreement
import Scriptlet.Proofs.Evaluation.Visits

/-!
# What a run comes by

A run evaluates its statements in order, each in the world that those before it left, and ends at
the first one that fails.  At the top level a `return` fails, so a statement that does not fail has
a value.
-/

namespace Scriptlet.Program

open Eval Phrase

/-- `Comes c i es w e w'`: running the statements `es`, counted from `i`, from the world `w` comes
to the statement `e` in the world `w'`. -/
inductive Comes (c : Context) : Nat → List Expr → World → Expr → World → Prop
  /-- The first statement. -/
  | first {i : Nat} {e : Expr} {es : List Expr} {w : World} :
      Comes c i (e :: es) w e (w.note (.statementRun i e.text))
  /-- A statement behind the first one, once that has a value. -/
  | behind {i : Nat} {e e' : Expr} {es : List Expr} {w w₁ w' : World} {v : Value}
      (he : Evaluates c 0 (expr e) (w.note (.statementRun i e.text)) (.normal v) w₁)
      (h : Comes c (i + 1) es w₁ e' w') : Comes c i (e :: es) w e' w'

/-- The world that the statements of a text are run from. -/
def startingWorld (c : Context) (source : Source) : World :=
  (start c.registry source.statements.1).world

/-- Running the text comes by the phrase. -/
def Visits (c : Context) (source : Source) (k : Config) : Prop :=
  ∃ es e w, source.statements.2 = .ok es ∧ Comes c 0 es (startingWorld c source) e w ∧
    Eval.Visits c ⟨0, expr e, w⟩ k

lemma fresh_atTop (m : Machine 0) : m.stack.Fresh := by
  cases m.stack
  exact nofun

/-- A statement has a value or fails. -/
lemma eval_statement (c : Context) (e : Expr) (m : Machine 0) :
    (∃ v w', Evaluates c 0 (expr e) m.world (.normal v) w' ∧
        eval c 0 e m = (.ok v, w'.on m.stack)) ∨
      ∃ f w', Evaluates c 0 (expr e) m.world (.abrupt (.failed f)) w' ∧
        eval c 0 e m = (.error f, w'.on m.stack) := by
  obtain ⟨o, w', h, heval⟩ := exists_evaluates c e m (fresh_atTop m)
  rcases o with v | v | f
  · exact .inl ⟨v, w', h, heval⟩
  · exact absurd (h.depth_pos rfl) (Nat.lt_irrefl 0)
  · exact .inr ⟨f, w', h, heval⟩

/-- Statements that fail come to one that fails. -/
lemma comes_of_runStatements {c : Context} {i : Nat} {es : List Expr} {m : Machine 0}
    {f : Failure} (h : (runStatements c i es m).1 = .error f) :
    ∃ e w, Comes c i es m.world e w ∧ Fails c ⟨0, expr e, w⟩ f := by
  induction es generalizing i m with
  | nil => cases h
  | cons e es ih =>
    simp only [runStatements, bind_apply, note_apply] at h
    rcases eval_statement c e { m with log := m.log.push (.statementRun i e.text) } with
      ⟨v, w₁, hrules, heval⟩ | ⟨f', w', hrules, heval⟩
    · rw [heval] at h
      obtain ⟨e', w, hcomes, hfails⟩ := ih h
      exact ⟨e', w, .behind hrules hcomes, hfails⟩
    · rw [heval] at h
      cases h
      exact ⟨e, _, .first, w', hrules⟩

end Scriptlet.Program
