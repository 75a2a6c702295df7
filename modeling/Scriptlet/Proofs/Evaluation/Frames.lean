import Scriptlet.Proofs.Evaluation.Ending
import Scriptlet.Proofs.Evaluation.History
import Scriptlet.Proofs.Evaluation.Runs

/-!
# The frames of a session

One interpreter evaluates one thing after the other, and its frames are a list that is never made
anew.  At every moment there is a frame for each call that the process is inside of, no more of them
than the limit allows, and no call but the innermost one is returning; so the list is empty again
whenever an evaluation has ended, however it ended.
-/

namespace Scriptlet

namespace Process

open Eval

/-! ## What holds at every moment -/

/-- The marks are those of so many calls, with a program around them or none. -/
inductive Balanced : List (Option Nat) → Nat → Prop
  /-- Nothing. -/
  | nil : Balanced [] 0
  /-- A program. -/
  | program : Balanced [none] 0
  /-- A call inside of others. -/
  | call {a n : Nat} {marks : List (Option Nat)} (h : Balanced marks n) :
      Balanced (some a :: marks) (n + 1)

/-- What holds of a process at every moment. -/
structure Orderly (settings : Settings) (p : Process) : Prop where
  /-- There is a frame for each call that the process is inside of. -/
  balanced : Balanced p.marks p.memory.frames.length
  /-- There are no more calls than the limit allows. -/
  room : (p.memory.frames.length : Int) ≤ max 0 settings.maxCallDepth
  /-- None of the calls around the innermost one is returning. -/
  around : ∀ f ∈ p.memory.frames.tail, f.shouldReturn = false
  /-- No expression is evaluated in a call that is returning. -/
  going : ∀ e, p.focus = .expr e → Frame.returned? p.memory.frames = none

section

variable {c : Context} {p p' : Process}

lemma shouldReturn_of_returned? {fs : List Frame} (h : Frame.returned? fs = none)
    (around : ∀ f ∈ fs.tail, f.shouldReturn = false) : ∀ f ∈ fs, f.shouldReturn = false := by
  intro f hf
  cases fs with
  | nil => cases hf
  | cons g gs =>
    rcases List.mem_cons.1 hf with rfl | hf
    · have hresult : f.result = none := h
      rw [Frame.shouldReturn, hresult]
      rfl
    · exact around f hf

@[simp] lemma length_signalInnermost (v : Value) (fs : List Frame) :
    (Frame.signalInnermost v fs).length = fs.length := by
  cases fs <;> rfl

@[simp] lemma tail_signalInnermost (v : Value) (fs : List Frame) :
    (Frame.signalInnermost v fs).tail = fs.tail := by
  cases fs <;> rfl

/-- A call that is made or a part that is evaluated finds no call returning. -/
lemma Orderly.returned?_of_goes {settings : Settings} (h : p.Orderly settings) (going : p.Goes) :
    Frame.returned? p.memory.frames = none := by
  rcases going with ⟨e, he⟩ | hr
  · exact h.going e he
  · exact hr

lemma Balanced.of_program {marks : List (Option Nat)} {n : Nat} (h : Balanced (none :: marks) n) :
    marks = [] ∧ n = 0 := by
  cases h
  exact ⟨rfl, rfl⟩

lemma Balanced.of_call {a n : Nat} {marks : List (Option Nat)} (h : Balanced (some a :: marks) n) :
    Balanced marks (n - 1) := by
  cases h with
  | call h => exact h

/-- Where a program goes on, no call is made. -/
lemma Orderly.frames_eq_nil {settings : Settings} (h : p.Orderly settings)
    (hmarks : p.marks.head? = some none) : p.memory.frames = [] := by
  have hbalanced := h.balanced
  obtain ⟨marks, hmarks⟩ := List.head?_eq_some_iff.1 hmarks
  rw [hmarks] at hbalanced
  exact List.length_eq_zero_iff.1 hbalanced.of_program.2

/-- What makes and gives up no frame keeps the order. -/
lemma Orderly.of_length_eq {settings : Settings} (h : p.Orderly settings)
    (hmarks : p'.marks = p.marks)
    (hlength : p'.memory.frames.length = p.memory.frames.length)
    (htail : p'.memory.frames.tail = p.memory.frames.tail)
    (going : ∀ e, p'.focus = .expr e → Frame.returned? p'.memory.frames = none) :
    p'.Orderly settings := by
  refine ⟨?_, ?_, ?_, going⟩
  · rw [hmarks, hlength]
    exact h.balanced
  · rw [hlength]
    exact h.room
  · rw [htail]
    exact h.around

/-- A step keeps the order. -/
theorem Orderly.step (h : p.Orderly c.settings) : (p.step c).Orderly c.settings := by
  have moves := step_moves c p
  generalize p.step c = p' at moves
  -- where a part has come to an end, no expression is evaluated next
  have ended {r : Except Failure Value} (focus : p'.focus = .result r) (e : Expr)
      (he : p'.focus = .expr e) : Frame.returned? p'.memory.frames = none := by
    cases focus.symm.trans he
  cases moves with
  | gives near r focus =>
    exact h.of_length_eq near.marks (by rw [near.frames]) (by rw [near.frames]) (ended focus)
  | evaluates near going =>
    refine h.of_length_eq near.marks (by rw [near.frames]) (by rw [near.frames]) fun e he => ?_
    rw [near.frames]
    rcases going with going | program
    · exact h.returned?_of_goes going
    · rw [h.frames_eq_nil program]
      rfl
  | signals scope marks scopes v frames r focus =>
    exact h.of_length_eq marks (by rw [frames, length_signalInnermost])
      (by rw [frames, tail_signalInnermost]) (ended focus)
  | finishes scope marks memory r focus =>
    have hbalanced := h.balanced
    rw [marks] at hbalanced
    refine ⟨?_, ?_, ?_, ended focus⟩
    · rw [memory, hbalanced.of_program.1, hbalanced.of_program.2]
      exact .nil
    · rw [memory]
      exact h.room
    · rw [memory]
      exact h.around
  | enters scope marks s scopes function frames room going r focus =>
    refine ⟨?_, ?_, ?_, ended focus⟩
    · rw [marks, frames]
      exact .call h.balanced
    · rw [frames, List.length_cons]
      omega
    · rw [frames]
      exact shouldReturn_of_returned? (h.returned?_of_goes going) h.around
  | leaves marks scopes frames r focus =>
    have hbalanced := h.balanced
    rw [marks] at hbalanced
    refine ⟨?_, ?_, ?_, ended focus⟩
    · rw [frames, List.length_tail]
      exact hbalanced.of_call
    · have := h.room
      rw [frames, List.length_tail]
      omega
    · rw [frames]
      exact fun f hf => h.around f (List.mem_of_mem_tail hf)

end

end Process

/-! ## Sessions -/

/-- The calls of the given frames. -/
def CallStack.ofList : (fs : List Frame) → CallStack fs.length
  | [] => .empty
  | f :: fs => .push f (ofList fs)

@[simp] lemma CallStack.toList_ofList (fs : List Frame) : (CallStack.ofList fs).toList = fs := by
  induction fs with
  | nil => rfl
  | cons f fs ih => simp [ofList, toList, ih]

/-- What is evaluated at the top level. -/
inductive Task where
  /-- An expression. -/
  | expr (e : Expr)
  /-- The statements of a program. -/
  | program (es : List Expr)

namespace Task

/-- What a machine outside of all calls does with a task. -/
def run (c : Eval.Context) : Task → Eval 0 Value
  | expr e => Eval.eval c 0 e
  | program es => Process.runProgram c 0 es

lemma runProgram_behind (c : Eval.Context) (i : Nat) (es : List Expr) (m : Machine 0)
    (output : String) (log : Array Note) :
    Process.runProgram c i es (m.behind output log) =
      ((Process.runProgram c i es m).1, (Process.runProgram c i es m).2.behind output log) := by
  induction es generalizing i m with
  | nil => rfl
  | cons e es ih =>
    have hnote : { m.behind output log with
        log := (m.behind output log).log.push (.statementRun i e.text) } =
          Machine.behind { m with log := m.log.push (.statementRun i e.text) } output log := by
      simp [Machine.behind, Array.push_append]
    rw [Process.runProgram_cons, Process.runProgram_cons, hnote]
    generalize ({ m with log := m.log.push (.statementRun i e.text) } : Machine 0) = m₀
    rw [Eval.bind_apply, Eval.bind_apply, Eval.eval_behind e (Program.fresh_atTop m₀)]
    rcases Eval.eval c 0 e m₀ with ⟨failure | v, m₁⟩
    · rfl
    · exact ih (i + 1) m₁

lemma run_behind (c : Eval.Context) (t : Task) (m : Machine 0) (output : String)
    (log : Array Note) :
    t.run c (m.behind output log) = ((t.run c m).1, (t.run c m).2.behind output log) := by
  cases t with
  | expr e => exact Eval.eval_behind e (Program.fresh_atTop m) output log
  | program es => exact runProgram_behind c 0 es m output log

/-- A process that begins with a task, in the scope at `a`. -/
def start (a : Nat) (μ : Memory) : Task → Process
  | expr e => ⟨.expr e, [], a, μ⟩
  | program es => ⟨.result (.ok .nothing), [.program 0 es], a, μ⟩

end Task

/-- The moments of a session, in which one interpreter with its settings evaluates one thing after
the other.  In between, everything may change but the frames: scopes may be made and changed, and
functions may be registered. -/
inductive Moment (settings : Settings) : Registry → Process → Prop
  /-- The first evaluation begins. -/
  | first {r : Registry} {a : Nat} {μ : Memory} (t : Task) (frames : μ.frames = [])
      (scope : a < μ.scopes.length) : Moment settings r (t.start a μ)
  /-- An evaluation takes a step. -/
  | step {r : Registry} {p : Process} (h : Moment settings r p) :
      Moment settings r (p.step ⟨settings, r⟩)
  /-- An evaluation has ended in any way, and another one begins. -/
  | next {r r' : Registry} {p : Process} {a : Nat} {μ : Memory} (h : Moment settings r p)
      (ended : p.Ended) (t : Task) (frames : μ.frames = p.memory.frames)
      (scope : a < μ.scopes.length) : Moment settings r' (t.start a μ)

namespace Process

open Eval

section

variable {settings : Settings} {r : Registry} {p : Process}

/-- An evaluation that has ended is inside of no call. -/
lemma Orderly.frames_of_ended (h : p.Orderly settings) (ended : p.Ended) :
    p.memory.frames = [] := by
  have hbalanced := h.balanced
  rw [marks, ended.1] at hbalanced
  generalize hn : p.memory.frames.length = n at hbalanced
  cases hbalanced
  exact List.length_eq_zero_iff.1 hn

lemma orderly_start (t : Task) (a : Nat) {μ : Memory} (h : μ.frames = []) :
    (t.start a μ).Orderly settings := by
  have hmemory : (t.start a μ).memory = μ := by
    cases t <;> rfl
  have hbalanced : Balanced (t.start a μ).marks 0 := by
    cases t with
    | expr e => exact .nil
    | program es => exact .program
  refine ⟨?_, ?_, ?_, fun _ _ => ?_⟩
  · rwa [hmemory, h]
  · rw [hmemory, h]
    exact Int.le_max_left _ _
  · rw [hmemory, h]
    exact nofun
  · rw [hmemory, h]
    rfl

lemma scoped_start (t : Task) {a : Nat} {μ : Memory} (h : a < μ.scopes.length) (b : Nat)
    (hb : (t.start a μ).Uses [] b) : b < (t.start a μ).memory.scopes.length := by
  obtain ⟨marks, hmarks, hb⟩ := hb
  rw [List.append_nil] at hmarks
  subst hmarks
  cases t with
  | expr e =>
    rcases hb with rfl | hb
    · exact h
    · cases hb
  | program es =>
    rcases hb with rfl | hb
    · exact h
    · simp [Process.marks, Task.start, Pending.mark?] at hb

end

end Process

section

open Process Eval

variable {settings : Settings} {r : Registry} {p : Process}

/-- At every moment the frames are in order. -/
theorem Moment.orderly (h : Moment settings r p) : p.Orderly settings := by
  induction h with
  | first t frames _ => exact orderly_start t _ frames
  | @step r p _ ih => exact Orderly.step (c := ⟨settings, r⟩) ih
  | next _ ended t frames _ ih =>
    exact orderly_start t _ (frames.trans (ih.frames_of_ended ended))

/-- At every moment the scopes that the process works in and comes back to exist. -/
theorem Moment.scoped (h : Moment settings r p) (a : Nat) (ha : p.Uses [] a) :
    a < p.memory.scopes.length := by
  induction h generalizing a with
  | first t _ scope => exact scoped_start t scope a ha
  | @step r p _ ih =>
    rcases uses_step List.nil_suffix ha with ha | ⟨-, ha⟩
    · exact Nat.lt_of_lt_of_le (ih a ha) (length_scopes_le _ p)
    · exact ha
  | next _ _ t _ scope _ => exact scoped_start t scope a ha

/-- An expression comes to its end, with as many frames as there were. -/
lemma Moment.comes (h : Moment settings r p) {e : Expr} (he : p.focus = .expr e) :
    ∃ n, (∀ k < n, ((Process.step ⟨settings, r⟩)^[k] p).Inside p.pending) ∧
      ∃ result memory,
        (Process.step ⟨settings, r⟩)^[n] p = ⟨.result result, p.pending, p.scope, memory⟩ ∧
          memory.frames.length = p.memory.frames.length := by
  have hscope := h.scoped p.scope ⟨p.marks, (List.append_nil _).symm, .inl rfl⟩
  let m : Machine p.memory.frames.length :=
    ⟨p.memory.scopes[p.scope], .ofList p.memory.frames, p.memory.output, p.memory.log⟩
  have hp : p = .of (.expr e) p.pending p.scope p.memory.scopes m := by
    rw [← he]
    simp [Process.of, m]
  obtain ⟨further, hwithin⟩ :=
    simulates ⟨settings, r⟩ _ e m p.pending p.scope p.memory.scopes (by simp [m])
  obtain ⟨n, hn, hinside⟩ := hwithin.iterate
  rw [← hp] at hn hinside
  refine ⟨n, hinside, _, _, hn, ?_⟩
  exact CallStack.length_toList _

/-- A task comes to what the machine does with it in the scope, whatever happened before. -/
lemma Task.comes (c : Context) (t : Task) (before behind : List Scope) (s : Scope) {μ : Memory}
    (scopes : μ.scopes = before ++ s :: behind) (frames : μ.frames = []) :
    ∃ n further, ∀ k, (Process.step c)^[n + k] (t.start before.length μ) =
      .of (.result (t.run c (.atTop s)).1) [] before.length
        (before ++ (t.run c (.atTop s)).2.scope :: (behind ++ further))
        ((t.run c (.atTop s)).2.behind μ.output μ.log) := by
  obtain ⟨_, _, output, log⟩ := μ
  cases scopes
  cases frames
  -- what was printed and noted so far stands before what the task prints and notes
  have hmachine : Machine.atTop s output log = (Machine.atTop s).behind output log := by
    simp [Machine.atTop, Machine.behind]
  have hstart : (before ++ s :: behind)[before.length]? =
      some (Machine.atTop s output log).scope := by
    simp [Machine.atTop]
  have hcomes : Comes c [] (t.start before.length ⟨before ++ s :: behind, [], output, log⟩)
      (before ++ s :: behind) before.length (t.run c (.atTop s output log)) := by
    cases t with
    | expr e =>
      have hsim := simulates c 0 e (.atTop s output log) [] before.length _ hstart
      rwa [← eval_eq] at hsim
    | program es => exact comes_program hstart
  rw [hmachine, Task.run_behind] at hcomes
  exact hcomes.iterate

lemma Moment.iterate (h : Moment settings r p) (k : Nat) :
    Moment settings r ((Process.step ⟨settings, r⟩)^[k] p) := by
  induction k with
  | zero => exact h
  | succ k ih =>
    rw [Function.iterate_succ_apply']
    exact .step ih

end

/-- **Frames are in order throughout a session.**  At every moment of it, whatever was evaluated
before and however that ended, there are no more frames than the limit allows, and no call is
returning but the innermost one.  An expression that the process is at comes to an end, with a value
or a failure, in the scope and with as many frames as it was begun with, and before that nothing is
handed over to what waits for it.  After a whole evaluation there is no frame; so the next one does
what a machine outside of all calls does in the contents of its scope, whatever happened before. -/
theorem Moment.frames_in_order {settings : Settings} {r : Registry} {p : Process}
    (h : Moment settings r p) :
    (p.memory.frames.length : Int) ≤ max 0 settings.maxCallDepth ∧
    (∀ f ∈ p.memory.frames.tail, f.shouldReturn = false) ∧
    (∀ e, p.focus = .expr e →
      ∃ n, (∀ k < n, ((Process.step ⟨settings, r⟩)^[k] p).Inside p.pending) ∧
        ∃ result memory,
          (Process.step ⟨settings, r⟩)^[n] p = ⟨.result result, p.pending, p.scope, memory⟩ ∧
            memory.frames.length = p.memory.frames.length) ∧
    (p.Ended → p.memory.frames = [] ∧
      ∀ (r' : Registry) (t : Task) (before behind : List Scope) (s : Scope) (μ : Memory),
        μ.frames = p.memory.frames → μ.scopes = before ++ s :: behind →
        ∃ n further, ∀ k, (Process.step ⟨settings, r'⟩)^[n + k] (t.start before.length μ) =
          .of (.result (t.run ⟨settings, r'⟩ (.atTop s)).1) [] before.length
            (before ++ (t.run ⟨settings, r'⟩ (.atTop s)).2.scope :: (behind ++ further))
            ((t.run ⟨settings, r'⟩ (.atTop s)).2.behind μ.output μ.log)) := by
  have orderly := h.orderly
  refine ⟨orderly.room, orderly.around, fun e he => h.comes he, fun ended => ?_⟩
  have hframes := orderly.frames_of_ended ended
  refine ⟨hframes, fun r' t before behind s μ frames scopes => ?_⟩
  exact t.comes ⟨settings, r'⟩ before behind s scopes (frames.trans hframes)

/-- A program that fails inside of a call: it defines `f` to return `1 / 0` and calls it. -/
def Task.failing : Task :=
  let digit (n : Int) : Expr := .leaf (.ofInt n) none
  .program [.define "f" [] [.ret (.binary .div (digit 1) (digit 0) none) none] "_none" none,
    .call "f" [] none]

/-- After the failure there is no frame. -/
theorem Moment.frames_in_order_failing :
    let p := (Process.step ⟨{}, {}⟩)^[14] (Task.failing.start 0 ⟨[{}], [], "", #[]⟩)
    Moment {} {} p ∧ p.Ended ∧
      p.focus = .result (.error (.located .divisionByZero none)) ∧ p.memory.frames = [] := by
  intro p
  have moment : Moment {} {} p := .iterate (.first Task.failing rfl Nat.one_pos) 14
  have ended : p.Ended := ⟨rfl, _, rfl⟩
  have inOrder := Moment.frames_in_order moment
  exact ⟨moment, ended, rfl, (inOrder.2.2.2 ended).1⟩

end Scriptlet
