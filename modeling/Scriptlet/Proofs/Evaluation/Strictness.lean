import Scriptlet.Builtin.Standard
import Scriptlet.Proofs.Evaluation.Statements

/-!
# Strictness only refuses

Settings may be stricter in that they refuse leaves without a value or check types.  Such settings
change nothing but that statements may be refused to go on (`stricter_only_refuses`).
-/

namespace Scriptlet.Program

open Eval Phrase

/-- The statements fail because a leaf has no value or a value is not of the type that was
declared for an argument or a result. -/
def Refused (c : Context) (es : List Expr) (m : Machine 0) : Prop :=
  ∃ f r k, (evalEach c es m).2.1 = some f ∧ r ≠ .depth ∧
    Eval.Visits c (.program es m.world) k ∧ Refuses c r k f

/-- Where as many calls may be nested, a check that only one of the settings makes is not that of
calls. -/
lemma refused_of_met {strict free : Context} {es : List Expr} {m : Machine 0} {f : Failure}
    (hdepth : strict.settings.maxCallDepth = free.settings.maxCallDepth)
    (hf : (evalEach strict es m).2.1 = some f) (h : Met strict free (.program es m.world) f) :
    Refused strict es m := by
  obtain ⟨r, k, hvisits, -, hrefuses, hdiffers⟩ := h
  refine ⟨f, r, k, hf, ?_, hvisits, hrefuses⟩
  rintro rfl
  exact hdiffers hdepth

/-- **Strictness only refuses.**  Let settings be as strict as others and allow as many calls to be
nested.  Statements that are not refused under them come to the same values, end, output and scope
under the others.  What statements that are refused have printed is printed first under the others.
-/
theorem stricter_only_refuses {strict free : Context} (h : Stricter strict free)
    (hdepth : strict.settings.maxCallDepth = free.settings.maxCallDepth) (es : List Expr)
    (m : Machine 0) :
    (¬ Refused strict es m → Alike strict free es m) ∧
      (Refused strict es m → PrintsFirst strict free es m) := by
  obtain hsame | ⟨f, hf, hprints, hmet⟩ := evalEach_restricted h es m
  · have halike : Alike strict free es m := .of_eq hsame.symm
    exact ⟨fun _ => halike, fun _ => halike.printsFirst⟩
  · exact ⟨fun hfree => absurd (refused_of_met hdepth hf hmet) hfree, fun _ => .of_prints hprints⟩

/-- A token that starts no expression. -/
def stray : Token := { kind := .error, lexeme := ";" }

/-- Between two statements that print, a leaf without a value is refused unless such leaves are
permitted.  To the first statement alone that makes no difference. -/
theorem stricter_refuses_stray :
    let strict : Context := ⟨{ permissiveLeaves := false }, .standard⟩
    let free : Context := ⟨{ permissiveLeaves := true }, .standard⟩
    let m : Machine 0 := .atTop (startingScope .standard)
    let es : List Expr := [printing "a", .leaf stray none, printing "b"]
    Stricter strict free ∧ Alike strict free [printing "a"] m ∧
      Refused strict es m ∧ PrintsFirst strict free es m ∧
      (evalEach strict es m).2.2.output = "a\n" ∧ (evalEach free es m).2.2.output = "a\nb\n" := by
  intro strict free m es
  have h : Stricter strict free := ⟨rfl, nofun, nofun, Int.le_refl _⟩
  have hprinting : (evalEach strict [printing "a"] m).2.1 = none := by decide +kernel
  have hfirst : ¬ Refused strict [printing "a"] m := by
    rintro ⟨f, r, k, hf, -⟩
    rw [hprinting] at hf
    cases hf
  have hrefused : Refused strict es m := by
    obtain ⟨v, w, he, -⟩ | ⟨f, w, he, -⟩ := eval_statement strict (printing "a") m
    · refine ⟨_, .leaf, ⟨0, expr (.leaf stray none), w⟩, ?_, nofun, ?_, .leaf nofun rfl rfl⟩
      · decide +kernel
      · exact .head (.moreStatements he) (.single .firstStatement)
    · rw [evalEach_of_failure he] at hprinting
      cases hprinting
  exact ⟨h, (stricter_only_refuses h rfl [printing "a"] m).1 hfirst, hrefused,
    (stricter_only_refuses h rfl es m).2 hrefused, by decide +kernel, by decide +kernel⟩

end Scriptlet.Program
