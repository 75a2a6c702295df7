import Scriptlet.Proofs.Safety.Handles
import Scriptlet.Session

/-!
# Sessions without dangling handles

A session makes scopes, registers functions and evaluates programs, one after the other and in any
scope.  `Session.Course` lists what it can come to, step by step, and no handle dangles at any
moment of that (`Session.Course.no_dangling`).  The same holds of the sessions that are taken from
answer to answer (`Session.Reached.known`, `Session.Reached.calls`).
-/

namespace Scriptlet

open Eval (Context)

/-! ## Sessions -/

/-- The process with other scopes. -/
def Process.withScopes (p : Process) (scopes : List Scope) : Process :=
  { p with memory := { p.memory with scopes } }

/-- What a session can come to: a registry, and a process that is evaluating or has ended.  Between
the steps of evaluations, functions may be registered and scopes made, populated and changed, in any
order. -/
inductive Session.Course : Registry → Process → Prop
  /-- Nothing has been done: there is a registry, and there is no scope. -/
  | start (r : Registry) : Course r ⟨.result (.ok .nothing), [], 0, ⟨[], [], "", #[]⟩⟩
  /-- A function is registered, perhaps in the place of another one. -/
  | register {r : Registry} {p : Process} (h : Course r p) (b : Builtin) : Course (r.register b) p
  /-- A scope is made in which nothing is bound. -/
  | newScope {r : Registry} {p : Process} (h : Course r p) (name : String) :
      Course r (p.withScopes (p.memory.scopes ++ [Scope.empty.snapshot name]))
  /-- A scope is copied. -/
  | snapshot {r : Registry} {p : Process} (h : Course r p) {s : Scope} (hs : s ∈ p.memory.scopes)
      (name : String) : Course r (p.withScopes (p.memory.scopes ++ [s.snapshot name]))
  /-- Handles to all functions that are registered are bound in the scope at an address. -/
  | populate {r : Registry} {p : Process} (h : Course r p) (a : Nat) :
      Course r (p.withScopes (p.memory.scopes.modify a r.populate))
  /-- A value that is no dangling handle is bound in the scope at an address. -/
  | set {r : Registry} {p : Process} (h : Course r p) (a : Nat) (name : String) {v : Value}
      (hv : r.Knows v) : Course r (p.withScopes (p.memory.scopes.modify a (·.set name v)))
  /-- An evaluation has ended in any way, and another one begins in the scope at an address. -/
  | evaluate {r : Registry} {p : Process} (h : Course r p) (ended : p.Ended) (t : Task) {a : Nat}
      (scope : a < p.memory.scopes.length) : Course r (t.start a p.memory)
  /-- An evaluation takes a step. -/
  | step {r : Registry} {p : Process} (h : Course r p) (settings : Settings)
      (closed : r.Closed) : Course r (p.step ⟨settings, r⟩)

open Registry Process

section

variable {r : Registry} {p : Process}

lemma Registry.KnowsAll.register (h : r.KnowsAll p) (b : Builtin) : (r.register b).KnowsAll p := by
  refine ⟨⟨?scopes, ?frames, ?pending⟩, ?focus⟩
  case scopes => exact fun s hs => (h.scopes s hs).register b
  case frames => exact fun f hf v hv => (h.frames f hf v hv).register b
  case pending => exact fun w hw v hv => (h.pending w hw v hv).register b
  case focus => exact fun v hv => (h.focus v hv).register b

lemma Registry.KnowsAll.withScopes (h : r.KnowsAll p) {scopes : List Scope}
    (hs : ∀ s ∈ scopes, r.KnowsScope s) : r.KnowsAll (p.withScopes scopes) :=
  ⟨⟨hs, h.frames, h.pending⟩, h.focus⟩

lemma Task.knowsAll_start (t : Task) (a : Nat) {μ : Memory} (hs : ∀ s ∈ μ.scopes, r.KnowsScope s)
    (hf : ∀ f ∈ μ.frames, ∀ v, f.result = some v → r.Knows v) : r.KnowsAll (t.start a μ) := by
  cases t with
  | expr e => exact ⟨⟨hs, hf, nofun⟩, nofun⟩
  | program es =>
    refine ⟨⟨hs, hf, List.forall_mem_singleton.2 nofun⟩, fun v hv => ?_⟩
    cases hv
    exact knows_of_ne nofun

/-- Nothing has failed where an evaluation begins. -/
lemma Task.focus_start (t : Task) (a : Nat) (μ : Memory) (f : Failure) :
    (t.start a μ).focus ≠ .result (.error f) := by
  cases t <;> nofun

/-- At no moment of a session a handle dangles. -/
lemma Session.Course.knowsAll (h : Session.Course r p) : r.KnowsAll p := by
  induction h with
  | start =>
    refine ⟨⟨nofun, nofun, nofun⟩, fun v hv => ?_⟩
    cases hv
    exact knows_of_ne nofun
  | register _ b ih => exact ih.register b
  | newScope _ name ih =>
    refine ih.withScopes (List.forall_mem_append.2 ⟨ih.scopes, ?_⟩)
    exact List.forall_mem_singleton.2 fun _ _ hv => nomatch hv
  | snapshot _ hs name ih =>
    refine ih.withScopes (List.forall_mem_append.2 ⟨ih.scopes, ?_⟩)
    have hcopy := ih.scopes _ hs
    exact List.forall_mem_singleton.2 hcopy
  | populate _ a ih =>
    refine ih.withScopes fun s hs => ?_
    obtain ⟨s', hs', rfl | rfl⟩ := mem_modify hs
    · exact ih.scopes s hs'
    · exact (ih.scopes s' hs').populate
  | set _ a name hv ih =>
    refine ih.withScopes fun s hs => ?_
    obtain ⟨s', hs', rfl | rfl⟩ := mem_modify hs
    · exact ih.scopes s hs'
    · exact (ih.scopes s' hs').set hv name
  | evaluate _ _ t _ ih => exact t.knowsAll_start _ ih.scopes ih.frames
  | step _ settings closed ih => exact knowsAll_step ih closed

lemma knowsBut_iterate {F : Failure → Prop} (settings : Settings) (h : r.KnowsBut F p)
    (closed : r.Closed)
    (hF : ∀ n f, ((Process.step ⟨settings, r⟩)^[n] p).FailsInCall r f → F f) (n : Nat) :
    r.KnowsBut F ((Process.step ⟨settings, r⟩)^[n] p) := by
  induction n with
  | zero => exact h
  | succ n ih =>
    rw [Function.iterate_succ_apply']
    exact knowsBut_step ih closed (hF n)

/-- Somewhere in its evaluation in the scope, a function is called that fails so by itself. -/
def Task.FailsInCall (t : Task) (c : Context) (s : Scope) (f : Failure) : Prop :=
  ∃ n, ((Process.step c)^[n] (t.start 0 ⟨[s], [], "", #[]⟩)).FailsInCall c.registry f

/-- Evaluation in a scope without dangling handles binds none, and it ends in the failure of calling
one only if a function that it calls fails so by itself. -/
lemma Task.knows_run (closed : r.Closed) (settings : Settings) (t : Task) {m : Machine 0}
    (hs : r.KnowsScope m.scope) :
    r.KnowsResult (t.FailsInCall ⟨settings, r⟩ m.scope) (t.run ⟨settings, r⟩ m).1 ∧
      r.KnowsScope (t.run ⟨settings, r⟩ m).2.scope := by
  obtain ⟨s, stack, output, log⟩ := m
  cases stack
  have hmachine : (⟨s, .empty, output, log⟩ : Machine 0) =
      (Machine.atTop s).behind output log := by
    simp [Machine.atTop, Machine.behind]
  have hstart : r.KnowsAll (t.start 0 ⟨[s], [], "", #[]⟩) :=
    t.knowsAll_start _ (List.forall_mem_singleton.2 hs) (List.forall_mem_nil _)
  obtain ⟨n, further, hn⟩ := t.comes ⟨settings, r⟩ [] [] s (μ := ⟨[s], [], "", #[]⟩) rfl rfl
  have hend := knowsBut_iterate settings
    (hstart.knowsBut fun f hf => absurd hf (t.focus_start _ _ f)) closed
    (F := t.FailsInCall ⟨settings, r⟩ s) (fun k f hf => ⟨k, hf⟩) n
  have hlast := hn 0
  rw [Nat.add_zero, List.length_nil] at hlast
  rw [hlast] at hend
  rw [hmachine, Task.run_behind]
  exact ⟨hend.focus _ rfl, hend.scopes _ List.mem_cons_self⟩

/-- If evaluation ends in the failure of calling a handle that dangles, then a registered function
fails so by itself. -/
lemma Registry.KnowsResult.failsItself {t : Task} {c : Context} {f : Failure}
    (h : c.registry.KnowsResult (t.FailsInCall c s) (.error f))
    (hf : f.isUnknownBuiltin = true) : ∃ name vs, c.registry.FailsItself name vs f := by
  obtain ⟨-, name, vs, -, hfails⟩ := h hf
  exact ⟨name, vs, hfails⟩

lemma knows_evalEach (closed : r.Closed) (settings : Settings) (es : List Expr) {m : Machine 0}
    (hs : r.KnowsScope m.scope) :
    (∀ f, (Eval.evalEach ⟨settings, r⟩ es m).2.1 = some f → f.isUnknownBuiltin = true →
        ∃ name vs, r.FailsItself name vs f) ∧
      r.KnowsScope (Eval.evalEach ⟨settings, r⟩ es m).2.2.scope := by
  induction es generalizing m with
  | nil => exact ⟨nofun, hs⟩
  | cons e es ih =>
    obtain ⟨hresult, hscope⟩ := Task.knows_run closed settings (.expr e) hs
    unfold Eval.evalEach
    change r.KnowsResult _ (Eval.eval ⟨settings, r⟩ 0 e m).1 at hresult
    change r.KnowsScope (Eval.eval ⟨settings, r⟩ 0 e m).2.scope at hscope
    generalize Eval.eval ⟨settings, r⟩ 0 e m = x at hresult hscope ⊢
    rcases x with ⟨f | v, m'⟩
    · refine ⟨fun f' hf => ?_, hscope⟩
      cases hf
      exact hresult.failsItself
    · exact ih hscope

lemma knows_runStatements (closed : r.Closed) (settings : Settings) (es : List Expr)
    {m : Machine 0} (hs : r.KnowsScope m.scope) :
    (∀ f, (Program.runStatements ⟨settings, r⟩ 0 es m).1 = .error f →
        f.isUnknownBuiltin = true → ∃ name vs, r.FailsItself name vs f) ∧
      r.KnowsScope (Program.runStatements ⟨settings, r⟩ 0 es m).2.scope := by
  obtain ⟨hresult, hscope⟩ := Task.knows_run closed settings (.program es) hs
  simp only [Task.run, Process.runProgram, Eval.bind_apply] at hresult hscope
  generalize Program.runStatements ⟨settings, r⟩ 0 es m = x at hresult hscope ⊢
  rcases x with ⟨f | ⟨⟩, m'⟩
  · refine ⟨fun f' hf => ?_, hscope⟩
    cases hf
    exact hresult.failsItself
  · refine ⟨fun f hf => ?_, hscope⟩
    cases hf

end

namespace Session

/-! ### The sessions that can be had -/

/-- The sessions that steps lead to, if nothing is bound that dangles and programs are run with
closed registries only. -/
inductive Reached : Session → Prop
  /-- Nothing has been done. -/
  | start (settings : Settings) : Reached (.start settings)
  /-- A step is taken. -/
  | step {s : Session} (h : Reached s) (identifier : String) (x : Step)
      (closed : x = .run ∨ (∃ source, x = .exec source) → s.registry.Closed)
      (known : ∀ name v, x = .set name v → s.registry.Knows v) :
      Reached (s.step identifier x).session

/-- No handle that is bound in a scope of the session dangles. -/
structure Known (s : Session) : Prop where
  /-- The top level. -/
  toplevel : s.registry.KnowsScope s.toplevel
  /-- Further scopes. -/
  scopes : ∀ q ∈ s.scopes, s.registry.KnowsScope q.2

section

variable {s : Session}

lemma mem_put {α κ : Type} [DecidableEq κ] {key : α → κ} {x y : α} {xs : List α}
    (h : y ∈ Keyed.put key x xs) : y = x ∨ y ∈ xs := by
  induction xs with
  | nil => exact .inl (List.mem_singleton.1 h)
  | cons z zs ih =>
    unfold Keyed.put at h
    split at h
    · exact (List.mem_cons.1 h).imp_right (List.mem_cons_of_mem z)
    · rcases List.mem_cons.1 h with rfl | h
      · exact .inr List.mem_cons_self
      · exact (ih h).imp_right (List.mem_cons_of_mem z)

lemma Known.scope (h : s.Known) (identifier : String) :
    s.registry.KnowsScope (s.scope identifier) := by
  unfold Session.scope
  cases hget : Keyed.get? Prod.fst identifier s.scopes with
  | none => exact h.toplevel
  | some q => exact h.scopes q (List.mem_of_find?_eq_some hget)

lemma Known.define (h : s.Known) (identifier : String) {scope : Scope}
    (hs : s.registry.KnowsScope scope) : (s.define identifier scope).Known := by
  refine ⟨h.toplevel, fun q hq => ?_⟩
  rcases mem_put hq with rfl | hq
  · exact hs
  · exact h.scopes q hq

lemma Known.update (h : s.Known) (identifier : String) {scope : Scope}
    (hs : s.registry.KnowsScope scope) : (s.update identifier scope).Known := by
  unfold Session.update
  split
  · exact h.define identifier hs
  · exact ⟨hs, h.scopes⟩

lemma Known.exec (h : s.Known) (closed : s.registry.Closed) (identifier : String)
    (source : Source) : (s.exec identifier source).session.Known := by
  unfold Session.exec
  split
  · exact h
  · rename_i es _
    exact h.update identifier (knows_evalEach closed s.settings es (h.scope identifier)).2

/-- In a session that can be had no handle dangles. -/
theorem Reached.known (h : Reached s) : s.Known := by
  induction h with
  | start settings =>
    exact ⟨KnowsScope.populate (fun _ _ hv => nomatch hv), nofun⟩
  | @step s _ identifier x closed known ih =>
    cases x with
    | exec source => exact ih.exec (closed (.inr ⟨source, rfl⟩)) identifier source
    | run =>
      exact ⟨(knows_runStatements (closed (.inl rfl)) s.settings s.statements ih.toplevel).2,
        ih.scopes⟩
    | set name v => exact ih.update identifier ((ih.scope identifier).set (known name v rfl) name)
    | snapshot new name => exact ih.define new (ih.scope identifier)
    | newScope new => exact ih.define new fun _ _ hv => nomatch hv
    | populate => exact ih.update identifier (ih.scope identifier).populate
    | register b =>
      exact ⟨ih.toplevel.register b, fun q hq => (ih.scopes q hq).register b⟩
    | load source =>
      unfold Session.step
      dsimp only
      split
      · exact ih
      · exact ⟨ih.toplevel, ih.scopes⟩
    | get | contains | names | info | call => exact ih

lemma isUnknownBuiltin_attach (f : Failure) (text : String) :
    (f.attach text).isUnknownBuiltin = f.isUnknownBuiltin := by
  cases f with
  | language e =>
    obtain ⟨cause, place⟩ := e
    cases cause <;> rfl
  | tooLong | missingArgument => rfl

/-- In a session that can be had a program ends in the failure of calling a handle that dangles only
if a registered function fails so by itself. -/
theorem Reached.calls (h : Reached s) (closed : s.registry.Closed) (identifier : String) :
    (∀ f, (s.step identifier .run).answer = .error f → f.isUnknownBuiltin = true →
        ∃ name vs, s.registry.FailsItself name vs f) ∧
      ∀ source es vs f, source.statements.2 = .ok es →
        (s.step identifier (.exec source)).answer = .ok (.values vs (some f)) →
        f.isUnknownBuiltin = true → ∃ name vs f', f = f'.attach source.text ∧
          s.registry.FailsItself name vs f' := by
  constructor
  · intro f hf
    have hrun := (knows_runStatements closed s.settings s.statements
      (m := .atTop s.toplevel) h.known.toplevel).1 f
    change (Except.map _ (Program.runStatements s.context 0 s.statements (.atTop s.toplevel)).1) =
      .error f at hf
    change (Program.runStatements s.context 0 s.statements (.atTop s.toplevel)).1 = .error f → _
      at hrun
    cases hresult : (Program.runStatements s.context 0 s.statements (.atTop s.toplevel)).1 with
    | ok _ =>
      rw [hresult] at hf
      cases hf
    | error f' =>
      rw [hresult] at hf hrun
      cases hf
      exact hrun rfl
  · intro source es vs f hes hf hunknown
    have hexec := (knows_evalEach closed s.settings es
      (m := .atTop (s.scope identifier)) (h.known.scope identifier)).1
    simp only [Session.step, Session.exec, hes, Except.ok.injEq, Answer.values.injEq,
      Option.map_eq_some_iff] at hf
    obtain ⟨-, f', hf', rfl⟩ := hf
    rw [isUnknownBuiltin_attach] at hunknown
    obtain ⟨name, args, hfails⟩ := hexec f' hf' hunknown
    exact ⟨name, args, f', rfl, hfails⟩

end

/-- **No handle dangles.**  Whatever is done in a session, with functions that give no dangling
handles but those that they were given: at every moment of it all handles that are bound in a scope,
held in a frame or handed over as arguments are to functions that are registered at that moment.  So
no evaluation calls another one.  Only a function that is registered can still fail by itself as
such a call would: no step comes to that failure, and no evaluation that could begin ends in it,
unless it calls a function that gives it. -/
theorem Course.no_dangling {r : Registry} {p : Process} (h : Course r p) :
    r.KnowsAll p ∧
    (∀ name vs, p.Calls name vs → (r.find? name).isSome = true ∧ ∀ v ∈ vs, r.Knows v) ∧
    (r.Closed → ∀ (settings : Settings) (f : Failure), f.isUnknownBuiltin = true →
      ((p.step ⟨settings, r⟩).focus = .result (.error f) →
        p.focus = .result (.error f) ∨ p.FailsInCall r f) ∧
      ∀ t : Task, ∀ s ∈ p.memory.scopes, (t.run ⟨settings, r⟩ (.atTop s)).1 = .error f →
        t.FailsInCall ⟨settings, r⟩ s f) := by
  have hknows := h.knowsAll
  refine ⟨hknows, fun name vs hcalls => hcalls.knows hknows, ?_⟩
  intro closed settings f hunknown
  refine ⟨failure_step hknows closed hunknown, fun t s hs hrun => ?_⟩
  have hresult := (t.knows_run closed settings (m := .atTop s) (hknows.scopes s hs)).1
  rw [hrun] at hresult
  exact hresult hunknown

/-- A function that gives its argument back. -/
def picking : Builtin where
  name := "pick"
  returnType := .fn
  params := [none]
  run := Builtin.argument 0

/-- The failure of calling a handle to a function `lost`. -/
def lost : Failure := .located (.unknownBuiltin "lost") none

/-- A function that fails as the call of a dangling handle does. -/
def losing : Builtin where
  name := "lose"
  returnType := .nothing
  run _ := { result := .error lost }

/-- A program that has a handle given back, calls it by another name, and calls `losing`. -/
def picked : Task :=
  .program [.assign (.leaf (.ofText .identifier "f") none)
      (.call "pick" [.leaf (.ofText .identifier "print") none] none) none,
    .call "f" [.leaf (.ofString "a") none] none, .call "lose" [] none]

lemma closed_losing : ((Registry.standard.register picking).register losing).Closed := by
  refine (closed_standard.register fun vs v _ hv => .inl ?_).register fun _ _ _ hv => nomatch hv
  simp only [picking, Builtin.argument] at hv
  split at hv <;> cases hv
  rename_i hget
  exact List.mem_of_getElem? hget

lemma Course.iterate {r : Registry} {p : Process} (h : Course r p) (settings : Settings)
    (closed : r.Closed) (n : Nat) : Course r ((Process.step ⟨settings, r⟩)^[n] p) := by
  induction n with
  | zero => exact h
  | succ n ih =>
    rw [Function.iterate_succ_apply']
    exact ih.step settings closed

/-- A scope is populated before and after the functions are registered.  The program prints with the
handle that was given back, and then it fails as `losing` does. -/
theorem Course.no_dangling_picked :
    let r := (Registry.standard.register picking).register losing
    let scope := r.populate (Registry.standard.populate (Scope.empty.snapshot "s"))
    let p := (Process.step ⟨{}, r⟩)^[13] (picked.start 0 ⟨[scope], [], "", #[]⟩)
    Course r p ∧ r.Closed ∧ p.pending.length = 0 ∧ p.memory.output = "a\n" ∧ r.KnowsAll p ∧
      (picked.run ⟨{}, r⟩ (.atTop scope)).1 = .error lost ∧
      picked.FailsInCall ⟨{}, r⟩ scope lost := by
  intro r scope p
  have hscope : Course r ⟨.result (.ok .nothing), [], 0, ⟨[scope], [], "", #[]⟩⟩ :=
    ((((Course.start .standard).newScope "s").populate 0).register picking
      |>.register losing).populate 0
  have hcourse : Course r p :=
    (hscope.evaluate ⟨rfl, _, rfl⟩ picked Nat.one_pos).iterate {} closed_losing 13
  have hrun : (picked.run ⟨{}, r⟩ (.atTop scope)).1 = .error lost := by
    have hfailure : (picked.run ⟨{}, r⟩ (.atTop scope)).1.map (fun _ => ()) = .error lost := by
      decide +kernel
    generalize (picked.run ⟨{}, r⟩ (.atTop scope)).1 = x at hfailure ⊢
    cases x <;> cases hfailure
    rfl
  obtain ⟨-, -, hfails⟩ := Course.no_dangling hscope
  exact ⟨hcourse, closed_losing, by decide +kernel, by decide +kernel,
    (Course.no_dangling hcourse).1, hrun,
    (hfails closed_losing {} lost rfl).2 picked scope List.mem_cons_self hrun⟩

end Session

end Scriptlet
