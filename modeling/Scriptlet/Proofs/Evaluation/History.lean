import Scriptlet.Program
import Scriptlet.Proofs.Evaluation.Agreement

/-!
# What came before

Evaluation does not look at what was printed and noted before it.  Its result and its scope are the
same whatever that was, and what it prints and notes comes behind it (`eval_behind`).
-/

namespace Scriptlet

/-- The world with text printed and notes taken before. -/
def World.behind (w : World) (output : String) (log : Array Note) : World :=
  ⟨w.scope, output ++ w.output, log ++ w.log⟩

/-- The machine with text printed and notes taken before. -/
def Machine.behind {d : Nat} (m : Machine d) (output : String) (log : Array Note) : Machine d :=
  ⟨m.scope, m.stack, output ++ m.output, log ++ m.log⟩

namespace Eval

variable {c : Context} {d : Nat} {output : String} {log : Array Note}

lemma note_behind (w : World) (n : Note) :
    (w.note n).behind output log = (w.behind output log).note n := by
  simp [World.note, World.behind, Array.push_append]

lemma print_behind (w : World) (s : String) :
    (w.print s).behind output log = (w.behind output log).print s := by
  simp [World.print, World.behind, String.append_assoc]

lemma answer_behind (r : Registry) (name : String) (vs : List Value) (promised : ValueType)
    (w : World) :
    answer r name vs promised (w.behind output log) =
      ((answer r name vs promised w).1, (answer r name vs promised w).2.behind output log) := by
  unfold answer
  cases r.find? name with
  | none => rfl
  | some b =>
    cases hb : b.rejection? vs with
    | some cause => simp [hb]
    | none =>
      cases hr : (b.run vs).result with
      | error f => simp [hb, hr, note_behind, print_behind]
      | ok v =>
        by_cases ht : v.type = promised
        · simp [hb, hr, ht, note_behind, print_behind]
        · simp [hb, hr, ht, note_behind, print_behind]

lemma entered_behind (f : UserFunction) (w : World) (scope : Scope) :
    (entered d f w scope).behind output log = entered d f (w.behind output log) scope := by
  simp [entered, World.behind, Array.push_append]

/-- Evaluation does not look at what was printed or noted. -/
theorem Evaluates.behind {α : Type} {p : Phrase α} {w w' : World} {o : Completion α}
    (h : Evaluates c d p w o w') (output : String) (log : Array Note) :
    Evaluates c d p (w.behind output log) o (w'.behind output log) := by
  induction h with
  | literal h => exact .literal h
  | bound h hv => exact .bound h hv
  | unbound h hv => exact .unbound h hv
  | passedOver h hv permitted =>
    rw [note_behind]
    exact .passedOver h hv permitted
  | rejected h hv permitted => exact .rejected h hv permitted
  | assignNothing h => exact .assignNothing h
  | assign h _ ih => exact .assign h ih
  | assignExit h _ ih => exact .assignExit h ih
  | binary _ _ ihl ihr => exact .binary ihl ihr
  | binaryExitLeft _ ih => exact .binaryExitLeft ih
  | binaryExitRight _ _ ihl ihr => exact .binaryExitRight ihl ihr
  | call _ _ ihes iho => exact .call ihes iho
  | callExit _ ih => exact .callExit ih
  | define h =>
    rw [note_behind]
    exact .define h
  | defineExit h => exact .defineExit h
  | retOutside => exact .retOutside
  | ret _ ih => exact .ret ih
  | retExit _ ih => exact .retExit ih
  | hole => exact .hole
  | argsEnd => exact .argsEnd
  | argsNext _ _ ih ihs => exact .argsNext ih ihs
  | argsExit _ ih => exact .argsExit ih
  | argsExitLater _ _ ih ihs => exact .argsExitLater ih ihs
  | undefined h => exact .undefined h
  | notCallable h hv => exact .notCallable h hv
  | @builtin d w name builtinName vs s promised h =>
    have hcall := @Evaluates.builtin c d (w.behind output log) name builtinName vs s promised h
    rwa [answer_behind] at hcall
  | tooDeep h depth => exact .tooDeep h depth
  | wrongArity h depth arity => exact .wrongArity h depth arity
  | unbindable h depth arity hs => exact .unbindable h depth arity hs
  | @user d w w' name vs s f scope o h depth arity hs _ ih =>
    rw [entered_behind] at ih
    exact .user (w := w.behind output log) h depth arity hs ih
  | bodyEnd => exact .bodyEnd
  | bodyNext _ _ ih ihs => exact .bodyNext ih ihs
  | bodyExit _ ih => exact .bodyExit ih

/-- What is evaluated does not depend on what was printed and noted before, and what is printed and
noted comes behind that. -/
lemma eval_behind (e : Expr) {m : Machine d} (fresh : m.stack.Fresh) (output : String)
    (log : Array Note) :
    eval c d e (m.behind output log) =
      ((eval c d e m).1, (eval c d e m).2.behind output log) := by
  obtain ⟨o, w', h, heval⟩ := exists_evaluates c e m fresh
  have hbehind := (h.behind output log).agrees m.stack fresh
  rw [heval, eval_eq]
  exact hbehind

end Eval

end Scriptlet
