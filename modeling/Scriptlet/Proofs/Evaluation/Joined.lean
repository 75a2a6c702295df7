import Scriptlet.Proofs.Evaluation.Statements
import Scriptlet.Proofs.Evaluation.Twins
import Scriptlet.Proofs.Printing.Joined

/-!
# Runs of programs behind programs

Between statements nothing is kept but the machine.  So to run a program that stands behind another
one is to run that one and then to evaluate, on the machine that it left, the statements of the
program behind it, unless the first run failed (`run_joined`).
-/

namespace Scriptlet

lemma Machine.withoutNotes_of_eq {m m' : Machine 0} (houtput : m'.output = m.output)
    (hscope : m'.scope = m.scope) : m'.withoutNotes = m.withoutNotes := by
  obtain ⟨scope, stack, output, log⟩ := m
  obtain ⟨scope', stack', output', log'⟩ := m'
  obtain rfl : output' = output := houtput
  obtain rfl : scope' = scope := hscope
  cases stack
  cases stack'
  rfl

namespace Program

open Eval

variable {c : Context} {es fs : List Expr}

/-- Nothing is evaluated behind a failure. -/
lemma evalEach_append_of_failed {m : Machine 0} {f : Failure} (h : (evalEach c es m).2.1 = some f) :
    evalEach c (es ++ fs) m = evalEach c es m := by
  induction es generalizing m with
  | nil => cases h
  | cons e es ih =>
    simp only [List.cons_append, evalEach] at h ⊢
    revert h
    rcases eval c 0 e m with ⟨g | v, m₁⟩
    · exact fun _ => rfl
    · intro h
      show (v :: (evalEach c (es ++ fs) m₁).1, (evalEach c (es ++ fs) m₁).2) = _
      rw [ih h]

/-- Otherwise the next statements go on where the first ones ended. -/
lemma evalEach_append {m : Machine 0} (h : (evalEach c es m).2.1 = none) :
    (evalEach c (es ++ fs) m).2 = (evalEach c fs (evalEach c es m).2.2).2 := by
  induction es generalizing m with
  | nil => rfl
  | cons e es ih =>
    simp only [List.cons_append, evalEach] at h ⊢
    revert h
    rcases eval c 0 e m with ⟨g | v, m₁⟩
    · intro h
      cases h
    · exact fun h => ih h

lemma ending_inj {f f' : Option Failure} (h : ending f' = ending f) : f' = f := by
  cases f <;> cases f' <;> simp_all [ending]

/-- Statements do not look at notes. -/
lemma evalEach_congr (c : Context) (es : List Expr) {m m' : Machine 0}
    (h : m'.withoutNotes = m.withoutNotes) :
    (evalEach c es m').2.1 = (evalEach c es m).2.1 ∧
      (evalEach c es m').2.2.withoutNotes = (evalEach c es m).2.2.withoutNotes := by
  -- a run from the one machine is like both of them
  have hlike := runStatements_like c 0 es h
  have hlike' := runStatements_like c 0 es (m := m') rfl
  refine ⟨ending_inj (hlike'.result.symm.trans hlike.result), Machine.withoutNotes_of_eq ?_ ?_⟩
  · exact hlike'.output.symm.trans hlike.output
  · exact hlike'.scope.symm.trans hlike.scope

/-- The run ended with this failure, if any, and left what this machine has printed and bound. -/
structure Outcome.Ends (o : Outcome) (failure : Option Failure) (m : Machine 0) : Prop where
  /-- If it failed, then for the same cause. -/
  failure : o.failure.map Failure.plain = failure.map Failure.plain
  /-- What was printed. -/
  output : o.output = m.output
  /-- The scope that was left. -/
  scope : ∃ m', o.machine = some m' ∧ m.scope.Same m'.scope

lemma Outcome.Ends.congr {o : Outcome} {failure failure' : Option Failure} {m m' : Machine 0}
    (h : o.Ends failure m) (hf : failure'.map Failure.plain = failure.map Failure.plain)
    (hm : m'.withoutNotes = m.withoutNotes) : o.Ends failure' m' := by
  obtain ⟨hfailure, houtput, left, hleft, hscope⟩ := h
  have hlike := like_of_withoutNotes (x := .ok ()) hm
  have hsame : m'.scope = m.scope := hlike.scope
  exact ⟨hfailure.trans hf.symm, houtput.trans hlike.output.symm, left, hleft, hsame ▸ hscope⟩

/-- The failure of statements that come to this end, if any. -/
def failure? : Except Failure Unit → Option Failure
  | .ok () => none
  | .error f => some f

lemma failure?_ending (f : Option Failure) : failure? (ending f) = f := by
  cases f <;> rfl

lemma plain_failure? {x x' : Except Failure Unit} (h : plainResult id x' = plainResult id x) :
    (failure? x').map Failure.plain = (failure? x).map Failure.plain := by
  rcases x with f | ⟨⟩ <;> rcases x' with f' | ⟨⟩
  · exact congrArg some (Except.error.inj h)
  · cases h
  · cases h
  · rfl

section Execute

variable {source : Source} {notes : List Note}

lemma machine_execute : (execute c source notes es).machine =
    some (runStatements c 0 es (start c.registry notes)).2 := by
  unfold execute
  split <;> simp_all [failed]

lemma failure_execute : (execute c source notes es).failure =
    (failure? (runStatements c 0 es (start c.registry notes)).1).map (·.attach source.text) := by
  unfold execute
  split <;> simp_all [failed, failure?]

end Execute

/-- A run ends as its statements do, or others that say the same. -/
lemma ends_run {source : Source} (hc : c.registry.Blind) (h : source.statements.2 = .ok fs)
    (hplains : Expr.plains fs = Expr.plains es) {m : Machine 0}
    (hm : (start c.registry).withoutNotes = m.withoutNotes) :
    (run c source).Ends (evalEach c es m).2.1 (evalEach c es m).2.2 := by
  have hstart : (start c.registry (readingNotes fs)).withoutNotes = m.withoutNotes := hm
  have hlike := runStatements_like c 0 es hstart
  obtain ⟨hresult, hmachine⟩ :=
    runStatements_congr hc 0 hplains (m := start c.registry (readingNotes fs)) rfl
  obtain ⟨houtput, -, hscope⟩ := Machine.seen_of_plain hmachine
  rw [run_eq h]
  constructor
  case failure =>
    have hattach : Failure.plain ∘ (·.attach source.text) = Failure.plain :=
      funext fun f => plain_attach f source.text
    rw [failure_execute, Option.map_map, hattach, plain_failure? hresult, hlike.result,
      failure?_ending]
  case output =>
    rw [Outcome.output, machine_execute]
    exact houtput.trans hlike.output
  case scope =>
    rw [hlike.scope] at hscope
    exact ⟨_, machine_execute, hscope⟩

/-- What is left of a run is what its statements leave. -/
lemma run_leaves {source : Source} (h : source.statements.2 = .ok es) :
    ∃ m, (run c source).machine = some m ∧
      m.withoutNotes = (evalEach c es (start c.registry)).2.2.withoutNotes ∧
      (run c source).failure =
        (evalEach c es (start c.registry)).2.1.map (·.attach source.text) := by
  have hlike : Like (ending (evalEach c es (start c.registry)).2.1,
      (evalEach c es (start c.registry)).2.2)
      (runStatements c 0 es (start c.registry (readingNotes es))) :=
    runStatements_like c 0 es rfl
  rw [run_eq h]
  refine ⟨_, machine_execute, Machine.withoutNotes_of_eq hlike.output hlike.scope, ?_⟩
  rw [failure_execute, hlike.result, failure?_ending]

/-- What stands behind a program is evaluated on what that left, unless it failed. -/
lemma ends_joined {source joined : Source} {gs : List Expr} (hc : c.registry.Blind)
    (h : source.statements.2 = .ok es) (h' : joined.statements.2 = .ok gs)
    (hplains : Expr.plains gs = Expr.plains (es ++ fs)) :
    ∃ m, (run c source).machine = some m ∧
      (∀ f, (run c source).failure = some f → (run c joined).Ends (some f) m) ∧
      ((run c source).failure = none →
        (run c joined).Ends (evalEach c fs m).2.1 (evalEach c fs m).2.2) := by
  -- both runs are compared with evaluating the statements on one machine
  have hends := ends_run hc h' hplains (m := start c.registry) rfl
  obtain ⟨m, hm, hleft, hfailure⟩ := run_leaves (c := c) h
  refine ⟨m, hm, fun f hf => ?_, fun hnone => ?_⟩
  · obtain ⟨g, hg, rfl⟩ := Option.map_eq_some_iff.1 (hfailure.symm.trans hf)
    rw [evalEach_append_of_failed hg, hg] at hends
    exact hends.congr (congrArg some (plain_attach g source.text)) hleft
  · have hended := Option.map_eq_none_iff.1 (hfailure.symm.trans hnone)
    obtain ⟨hsame, hbehind⟩ := evalEach_congr c fs hleft
    rw [evalEach_append hended] at hends
    exact hends.congr (congrArg (Option.map Failure.plain) hsame) hbehind

/-- **Programs compose by concatenation.**  Behind a program, in a line of its own, stands any other
text.  If that is a program, too, then the whole is one, with the statements of both; running it
ends as running the first one does if that fails, and otherwise as evaluating the statements of the
second one does on the machine that the first one left.  If the text is no program, then the same is
wrong with the whole.  Functions that are built in must not look at places, as those of the language
do not (`Registry.standard_blind`). -/
theorem run_joined {source : Source} (h : source.statements.2 = .ok es) (source' : Source)
    (file : Option String) :
    (∀ fs, source'.statements.2 = .ok fs →
      (∃ gs, (source.joined source' file).statements.2 = .ok gs ∧
        Expr.allSame (es ++ fs) gs = true) ∧
      ∀ c : Context, c.registry.Blind → ∃ m, (run c source).machine = some m ∧
        (∀ f, (run c source).failure = some f →
          (run c (source.joined source' file)).Ends (some f) m) ∧
        ((run c source).failure = none →
          (run c (source.joined source' file)).Ends (evalEach c fs m).2.1 (evalEach c fs m).2.2)) ∧
    ∀ f, source'.statements.2 = .error f →
      ∃ f', (source.joined source' file).statements.2 = .error f' ∧ f'.plain = f.plain := by
  refine ⟨fun fs h' => ?_, fun f h' => Source.statements_joined_error h h' file⟩
  obtain ⟨gs, hgs, hsame⟩ := Source.statements_joined h h' file
  refine ⟨⟨gs, hgs, hsame⟩, fun c hc => ends_joined hc h hgs ?_⟩
  refine Expr.plains_of_bares ?_ (Source.spelled_of_statements hgs) ?_
  · intro n hn
    obtain ⟨e, he, hne⟩ := Expr.mem_allNodes.1 hn
    obtain he | he := List.mem_append.1 he
    · exact Source.spelled_of_statements h n (Expr.mem_allNodes.2 ⟨e, he, hne⟩)
    · exact Source.spelled_of_statements h' n (Expr.mem_allNodes.2 ⟨e, he, hne⟩)
  · exact ((Expr.allSame_iff _ _).1 hsame).symm

/-- A text that ends within a comment, so that nothing may follow in its last line. -/
def remarked : Source := ⟨"x := 2; # two", none⟩

/-- A text that starts with a minus sign and fails at its last statement. -/
def remarking : Source := ⟨"-1; print(x); y;", some "b"⟩

/-- Joined, they print what the first one bound, and fail as the second one does. -/
theorem run_joined_remark :
    let c : Context := ⟨{}, .standard⟩
    ∃ es fs gs m, remarked.statements.2 = .ok es ∧ remarking.statements.2 = .ok fs ∧
      (remarked.joined remarking none).statements.2 = .ok gs ∧ Expr.allSame (es ++ fs) gs = true ∧
      (run c remarked).machine = some m ∧ (evalEach c fs m).2.1.isSome = true ∧
      (run c (remarked.joined remarking none)).Ends (evalEach c fs m).2.1
        (evalEach c fs m).2.2 := by
  intro c
  have hread : (remarked.statements.2.toBool && remarking.statements.2.toBool) = true := by
    decide +kernel
  cases h : remarked.statements.2 with
  | error failure =>
    rw [h] at hread
    cases hread
  | ok es =>
    cases h' : remarking.statements.2 with
    | error failure =>
      rw [h, h'] at hread
      cases hread
    | ok fs =>
      obtain ⟨⟨gs, hgs, hsame⟩, hrun⟩ := (run_joined h remarking none).1 fs h'
      obtain ⟨m, hm, -, hends⟩ := hrun c Registry.standard_blind
      have hnone : (run c remarked).failure = none :=
        Option.isNone_iff_eq_none.1 (by decide +kernel)
      have hfails : (run c (remarked.joined remarking none)).failure.isSome = true := by
        decide +kernel
      have hsome := congrArg Option.isSome (hends hnone).failure
      rw [Option.isSome_map, Option.isSome_map, hfails] at hsome
      exact ⟨es, fs, gs, m, rfl, rfl, hgs, hsame, hm, hsome.symm, hends hnone⟩

end Program

end Scriptlet
