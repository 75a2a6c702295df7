import Scriptlet.Session
import Scriptlet.Proofs.Evaluation.History
import Scriptlet.Proofs.Evaluation.Refusals
import Scriptlet.Proofs.Evaluation.Runs

/-!
# Statements at the top level

A session evaluates statements for their values, and a run evaluates them for what they do.  The two
differ in what they note only (`runStatements_like`).  Under stricter settings statements are
evaluated as they are under others, or a check lies in the way (`evalEach_restricted`).
-/

namespace Scriptlet

/-- The machine without its notes. -/
def Machine.withoutNotes {d : Nat} (m : Machine d) : Machine d := { m with log := #[] }

namespace Eval

lemma eval_withoutNotes {d : Nat} (c : Context) (e : Expr) {m : Machine d}
    (fresh : m.stack.Fresh) :
    (eval c d e m).1 = (eval c d e m.withoutNotes).1 ∧
      (eval c d e m).2.withoutNotes = (eval c d e m.withoutNotes).2.withoutNotes := by
  have h := eval_behind (c := c) e (m := m.withoutNotes) fresh "" m.log
  have hm : m.withoutNotes.behind "" m.log = m := by
    simp [Machine.withoutNotes, Machine.behind]
  rw [hm] at h
  rw [h]
  exact ⟨rfl, by simp [Machine.withoutNotes, Machine.behind]⟩

/-- Evaluation does not look at notes. -/
lemma eval_congr (c : Context) (e : Expr) {m m' : Machine 0}
    (h : m'.withoutNotes = m.withoutNotes) :
    (eval c 0 e m').1 = (eval c 0 e m).1 ∧
      (eval c 0 e m').2.withoutNotes = (eval c 0 e m).2.withoutNotes := by
  obtain ⟨hresult, hleft⟩ := eval_withoutNotes c e (Program.fresh_atTop m)
  obtain ⟨hresult', hleft'⟩ := eval_withoutNotes c e (Program.fresh_atTop m')
  rw [hresult', hleft', hresult, hleft, h]
  exact ⟨rfl, rfl⟩

/-- The statements of a program, at the top level. -/
def Config.program (es : List Expr) (w : World) : Config := ⟨0, .body es, w⟩

/-- A statement that prints a text. -/
def printing (s : String) : Expr := .call "print" [.leaf (.ofString s) none] none

end Eval

namespace Program

open Eval

/-- The second run ends as the first one does, has printed the same, and leaves the same scope. -/
structure Like (r r' : Except Failure Unit × Machine 0) : Prop where
  /-- How it ends. -/
  result : r'.1 = r.1
  /-- What it has printed. -/
  output : r'.2.output = r.2.output
  /-- The scope that it leaves. -/
  scope : r'.2.scope = r.2.scope

/-- How statements end that come to this failure, if any. -/
def ending : Option Failure → Except Failure Unit
  | none => .ok ()
  | some f => .error f

lemma like_of_withoutNotes {x : Except Failure Unit} {m m' : Machine 0}
    (h : m'.withoutNotes = m.withoutNotes) : Like (x, m) (x, m') := by
  have houtput := congrArg Machine.output h
  have hscope := congrArg Machine.scope h
  exact ⟨rfl, houtput, hscope⟩

/-- A run comes to what evaluating its statements comes to. -/
theorem runStatements_like (c : Context) (i : Nat) (es : List Expr) {m m' : Machine 0}
    (hm : m'.withoutNotes = m.withoutNotes) :
    Like (ending (evalEach c es m).2.1, (evalEach c es m).2.2) (runStatements c i es m') := by
  induction es generalizing i m m' with
  | nil => exact like_of_withoutNotes hm
  | cons e es ih =>
    simp only [runStatements, bind_apply, note_apply, evalEach]
    have hnoted : ({ m' with log := m'.log.push (.statementRun i e.text) } :
        Machine 0).withoutNotes = m.withoutNotes := hm
    obtain ⟨hresult, hleft⟩ := eval_congr c e hnoted
    revert hresult hleft
    rcases eval c 0 e m with ⟨f | v, m₁⟩ <;>
      rcases eval c 0 e { m' with log := m'.log.push (.statementRun i e.text) } with
        ⟨f' | v', m₁'⟩ <;>
      intro hresult hleft
    · cases hresult
      exact like_of_withoutNotes hleft
    · cases hresult
    · cases hresult
    · exact ih (i + 1) hleft

end Program

namespace Eval

/-! ## Statements under stricter settings -/

section

variable {c strict free : Context} {e : Expr} {es : List Expr} {m : Machine 0} {f : Failure}

lemma evalEach_of_value {v : Value} {w : World}
    (h : Evaluates c 0 (.expr e) m.world (.normal v) w) :
    evalEach c (e :: es) m =
      (v :: (evalEach c es (w.on m.stack)).1, (evalEach c es (w.on m.stack)).2) := by
  have heval : eval c 0 e m = (.ok v, w.on m.stack) := h.eval (Program.fresh_atTop m)
  simp only [evalEach, heval]

lemma evalEach_of_failure {w : World}
    (h : Evaluates c 0 (.expr e) m.world (.abrupt (.failed f)) w) :
    evalEach c (e :: es) m = ([], some f, w.on m.stack) := by
  have heval : eval c 0 e m = (.error f, w.on m.stack) := h.eval (Program.fresh_atTop m)
  simp only [evalEach, heval]

/-- The statements of a program are evaluated as those of a body are. -/
lemma evaluates_program (c : Context) (es : List Expr) (m : Machine 0) :
    Evaluates c 0 (.body es) m.world (.ofResult (Program.ending (evalEach c es m).2.1))
      (evalEach c es m).2.2.world := by
  induction es generalizing m with
  | nil => exact .bodyEnd
  | cons e es ih =>
    obtain ⟨v, w, h, -⟩ | ⟨f, w, h, -⟩ := Program.eval_statement c e m
    · rw [evalEach_of_value h]
      exact .bodyNext h (ih (w.on m.stack))
    · rw [evalEach_of_failure h]
      exact .bodyExit h

/-- What was printed before the statements stays printed. -/
lemma evalEach_prints (c : Context) (es : List Expr) (m : Machine 0) :
    m.world.Prints (evalEach c es m).2.2.world :=
  (evaluates_program c es m).prints

/-- Statements come to the failure that they fail with as the body of a function. -/
lemma evalEach_of_fails (h : Fails c (.program es m.world) f) : (evalEach c es m).2.1 = some f := by
  obtain ⟨w, h⟩ := h
  have fresh := Program.fresh_atTop m
  -- both say how the one machine ends
  have same := congrArg Prod.fst
    (((evaluates_program c es m).agrees m.stack fresh).symm.trans (h.agrees m.stack fresh))
  revert same
  cases (evalEach c es m).2.1 with
  | none => nofun
  | some g =>
    intro same
    exact congrArg some (Except.error.inj same)

/-- **Under stricter settings statements are evaluated as they are under others, or a check that
only the stricter settings make lies in the way.** -/
theorem evalEach_restricted (h : Stricter strict free) (es : List Expr) (m : Machine 0) :
    evalEach strict es m = evalEach free es m ∨ ∃ f, (evalEach strict es m).2.1 = some f ∧
      (evalEach strict es m).2.2.world.Prints (evalEach free es m).2.2.world ∧
      Met strict free (.program es m.world) f := by
  induction es generalizing m with
  | nil => exact .inl rfl
  | cons e es ih =>
    obtain ⟨v, w, he, -⟩ | ⟨f, w, he, -⟩ := Program.eval_statement free e m
    · rw [evalEach_of_value he]
      obtain he' | ⟨f, w', hfailed, hprints, hmet⟩ := he.restricted h
      · -- the statement has its value, and the next ones are evaluated
        rw [evalEach_of_value he']
        obtain hsame | ⟨f, hf, hprints, hmet⟩ := ih (w.on m.stack)
        · exact .inl (by rw [hsame])
        · exact .inr ⟨f, hf, hprints, hmet.lift (.moreStatements he') (.moreStatements he)⟩
      · rw [evalEach_of_failure hfailed]
        refine .inr ⟨f, rfl, ?_, hmet.lift .firstStatement .firstStatement⟩
        exact hprints.trans (evalEach_prints free es (w.on m.stack))
    · rw [evalEach_of_failure he]
      obtain he' | ⟨f, w', hfailed, hprints, hmet⟩ := he.restricted h
      · exact .inl (evalEach_of_failure he')
      · rw [evalEach_of_failure hfailed]
        exact .inr ⟨f, rfl, hprints, hmet.lift .firstStatement .firstStatement⟩

end

end Eval

/-! ## Two runs of the same statements -/

namespace Program

open Eval

/-- Under the second settings the statements come to what they come to under the first ones. -/
structure Alike (c c' : Context) (es : List Expr) (m : Machine 0) : Prop where
  /-- In a session, with the same values. -/
  session : evalEach c' es m = evalEach c es m
  /-- In a run. -/
  run : ∀ i, Like (runStatements c i es m) (runStatements c' i es m)

/-- What is printed under the first settings is the beginning of what is printed under the second
ones. -/
structure PrintsFirst (c c' : Context) (es : List Expr) (m : Machine 0) : Prop where
  /-- In a session. -/
  session : (evalEach c es m).2.2.world.Prints (evalEach c' es m).2.2.world
  /-- In a run. -/
  run : ∀ i, (runStatements c i es m).2.world.Prints (runStatements c' i es m).2.world

section

variable {c c' : Context} {es : List Expr} {m : Machine 0}

lemma Like.of_common {r r₁ r₂ : Except Failure Unit × Machine 0} (h₁ : Like r r₁)
    (h₂ : Like r r₂) : Like r₁ r₂ where
  result := h₂.result.trans h₁.result.symm
  output := h₂.output.trans h₁.output.symm
  scope := h₂.scope.trans h₁.scope.symm

lemma Alike.of_eq (h : evalEach c' es m = evalEach c es m) : Alike c c' es m where
  session := h
  run i := by
    have h' := runStatements_like c' i es (m := m) rfl
    rw [h] at h'
    exact (runStatements_like c i es rfl).of_common h'

lemma Alike.symm (h : Alike c c' es m) : Alike c' c es m := .of_eq h.session.symm

lemma PrintsFirst.of_prints (h : (evalEach c es m).2.2.world.Prints (evalEach c' es m).2.2.world) :
    PrintsFirst c c' es m where
  session := h
  run i := by
    have hfirst := runStatements_like c i es (m := m) rfl
    have hsecond := runStatements_like c' i es (m := m) rfl
    exact (World.Prints.of_output hfirst.output.symm).trans (h.trans (.of_output hsecond.output))

lemma Alike.printsFirst (h : Alike c c' es m) : PrintsFirst c c' es m :=
  .of_prints (by rw [h.session]; exact .refl _)

/-- A run fails with what the statements come to in a session. -/
lemma runStatements_of_failed {f : Failure} (h : (evalEach c es m).2.1 = some f) (i : Nat) :
    (runStatements c i es m).1 = .error f := by
  have hlike := runStatements_like c i es (m := m) rfl
  rw [h] at hlike
  exact hlike.result

end

end Program

end Scriptlet
