import Scriptlet.Builtin.Standard
import Scriptlet.Proofs.Evaluation.Statements

/-!
# The limit of nested calls

How many calls may be nested makes no difference as long as there are not more of them.  A run that
does not fail because of its limit nests calls to a certain depth.  Under each limit that reaches
this depth the run is the same one, and under each smaller limit it fails because of the limit
(`call_limit_threshold`).
-/

namespace Scriptlet

namespace Eval

open Phrase

/-- What evaluation depends on, with another limit of nested calls. -/
def Context.limited (c : Context) (limit : Int) : Context :=
  ⟨{ c.settings with maxCallDepth := limit }, c.registry⟩

/-- Evaluating `k` comes to a call of a function of the program that has `j` calls around it,
whether the call is allowed or not. -/
def Calls (c : Context) (k : Config) (j : Nat) : Prop :=
  ∃ name vs s w f, Visits c k ⟨j, apply name vs s, w⟩ ∧ w.scope.get? name = some (.fn (.user f))

/-- Evaluating `k` nests calls to the depth `D`. -/
structure CallDepth (c : Context) (k : Config) (D : Nat) : Prop where
  /-- No call has as many calls around it. -/
  above : ∀ j, Calls c k j → j < D
  /-- Some call has as many around it but one, if there are calls at all. -/
  reached : ∀ j, D = j + 1 → Calls c k j

section

variable {c strict free : Context} {k : Config} {f : Failure}

/-- Where there is a bound, there is a depth. -/
lemma exists_callDepth (n : Nat) (h : ∀ j, Calls c k j → j < n) : ∃ D, CallDepth c k D := by
  induction n with
  | zero => exact ⟨0, h, nofun⟩
  | succ n ih =>
    by_cases hn : Calls c k n
    · refine ⟨n + 1, h, ?_⟩
      rintro j hj
      obtain rfl : n = j := by omega
      exact hn
    · refine ih fun j hj => ?_
      have hne : j ≠ n := by
        rintro rfl
        exact hn hj
      have := h j hj
      omega

/-- A call beyond the limit fails. -/
lemma fails_of_calls {j : Nat} (h : Calls c k j) (hj : c.settings.maxCallDepth ≤ j) :
    ∃ s, Fails c k (depthFailure c.settings.maxCallDepth s) := by
  obtain ⟨name, vs, s, w, f, hvisits, hf⟩ := h
  exact ⟨s, fails_iff.2 ⟨_, hvisits, .tooDeep hf hj⟩⟩

/-- Where settings differ in the limit of nested calls only, they make a difference to a call that
is beyond the smaller limit only. -/
lemma Met.calls (h : Met strict free k f)
    (hleaves : strict.settings.permissiveLeaves = free.settings.permissiveLeaves)
    (htypes : strict.settings.checkTypes = free.settings.checkTypes) :
    ∃ j s, Calls free k j ∧ strict.settings.maxCallDepth ≤ j ∧
      Fails strict k (depthFailure strict.settings.maxCallDepth s) := by
  have hfails := h.fails
  obtain ⟨r, k', -, hvisits, hrefuses, hdiffers⟩ := h
  cases hrefuses with
  | leaf => exact absurd hleaves hdiffers
  | argument | result => exact absurd htypes hdiffers
  | @depth d w name vs s f hf hd =>
    exact ⟨d, s, ⟨name, vs, s, w, f, hvisits, hf⟩, hd, hfails⟩

variable {limit : Int}

lemma stricter_limited (h : limit ≤ c.settings.maxCallDepth) : Stricter (c.limited limit) c :=
  ⟨rfl, id, id, h⟩

lemma limited_stricter (h : c.settings.maxCallDepth ≤ limit) : Stricter c (c.limited limit) :=
  ⟨rfl, id, id, h⟩

/-- A call beyond a smaller limit fails under that limit, or one before it does. -/
lemma fails_limited {j : Nat} (h : Calls c k j) (hj : limit ≤ j)
    (hle : limit ≤ c.settings.maxCallDepth) :
    ∃ s, Fails (c.limited limit) k (depthFailure limit s) := by
  obtain ⟨name, vs, s, w, f, hvisits, hf⟩ := h
  obtain hvisits | ⟨f, hmet⟩ := hvisits.restricted (stricter_limited hle)
  · exact fails_of_calls ⟨name, vs, s, w, _, hvisits, hf⟩ hj
  · obtain ⟨j, s, -, -, hfails⟩ := hmet.calls rfl rfl
    exact ⟨s, hfails⟩

end

end Eval

namespace Program

open Eval

/-- The statements fail because calls are nested too deep for the limit. -/
def TooDeep (c : Context) (es : List Expr) (m : Machine 0) (limit : Int) : Prop :=
  ∃ s, (evalEach c es m).2.1 = some (.located (.callDepthExceeded limit) s) ∧
    ∀ i, (runStatements c i es m).1 = .error (.located (.callDepthExceeded limit) s)

section

variable {c : Context} {es : List Expr} {m : Machine 0} {limit : Int} {D : Nat}

/-- A run with a call beyond the limit fails because of the limit. -/
lemma tooDeep_of_fails {s : Option Span} (hc : c.settings.maxCallDepth = limit)
    (hlimit : limit.natAbs < Numeral.writingLimit)
    (h : Fails c (.program es m.world) (depthFailure c.settings.maxCallDepth s)) :
    TooDeep c es m limit := by
  rw [hc, depthFailure_eq hlimit] at h
  have hfailed := evalEach_of_fails h
  exact ⟨s, hfailed, runStatements_of_failed hfailed⟩

/-- In a run that does not fail because of its limit, no call is beyond it. -/
lemma lt_of_calls (hc : c.settings.maxCallDepth.natAbs < Numeral.writingLimit)
    (hrun : ¬ TooDeep c es m c.settings.maxCallDepth) {j : Nat}
    (h : Calls c (.program es m.world) j) : (j : Int) < c.settings.maxCallDepth := by
  refine Int.lt_of_not_ge fun hj => hrun ?_
  obtain ⟨s, hfails⟩ := fails_of_calls h hj
  exact tooDeep_of_fails rfl hc hfails

/-- A limit that the calls do not exceed makes no difference. -/
lemma alike_of_le (hc : c.settings.maxCallDepth.natAbs < Numeral.writingLimit)
    (hrun : ¬ TooDeep c es m c.settings.maxCallDepth)
    (hlimit : ∀ j, Calls c (.program es m.world) j → (j : Int) < limit) :
    Alike c (c.limited limit) es m := by
  obtain hle | hle := Int.le_total c.settings.maxCallDepth limit
  · obtain hsame | ⟨f, -, -, hmet⟩ := evalEach_restricted (limited_stricter hle) es m
    · exact .of_eq hsame.symm
    · -- the limit of the run itself would have been exceeded
      obtain ⟨j, s, -, -, hfails⟩ := hmet.calls rfl rfl
      exact absurd (tooDeep_of_fails rfl hc hfails) hrun
  · obtain hsame | ⟨f, -, -, hmet⟩ := evalEach_restricted (stricter_limited hle) es m
    · exact .of_eq hsame
    · obtain ⟨j, s, hcalls, hj, -⟩ := hmet.calls rfl rfl
      exact absurd (hlimit j hcalls) (Int.not_lt.2 hj)

/-- A limit that a call exceeds makes the run fail, which has printed what was printed first
without it. -/
lemma tooDeep_of_lt (hlimit : limit.natAbs < Numeral.writingLimit)
    (hle : limit ≤ c.settings.maxCallDepth) {j : Nat}
    (hcalls : Calls c (.program es m.world) j) (hj : limit ≤ j) :
    TooDeep (c.limited limit) es m limit ∧ PrintsFirst (c.limited limit) c es m := by
  constructor
  · obtain ⟨s, hfails⟩ := fails_limited hcalls hj hle
    exact tooDeep_of_fails rfl hlimit hfails
  · obtain hsame | ⟨f, -, hprints, -⟩ := evalEach_restricted (stricter_limited hle) es m
    · exact (Alike.of_eq hsame).symm.printsFirst
    · exact .of_prints hprints

end

/-- **The limit of nested calls is a threshold and else invisible.**  A run that does not fail
because of its limit nests calls to some depth `D`.  Under each limit of at least `D`, and under
each limit at all if nothing is called, it comes to the same values, end, output and scope.  Under
each smaller limit it fails because of that limit, and has printed the beginning of what it prints
else. -/
theorem call_limit_threshold (c : Context) (es : List Expr) (m : Machine 0)
    (hc : c.settings.maxCallDepth.natAbs < Numeral.writingLimit)
    (hrun : ¬ ∃ limit, TooDeep c es m limit) :
    (∃ D, CallDepth c (.program es m.world) D) ∧
      ∀ (D : Nat) (limit : Int), CallDepth c (.program es m.world) D →
        limit.natAbs < Numeral.writingLimit →
        (D = 0 ∨ (D : Int) ≤ limit → Alike c (c.limited limit) es m) ∧
        (0 < D → limit < D →
          TooDeep (c.limited limit) es m limit ∧ PrintsFirst (c.limited limit) c es m) := by
  have hown : ¬ TooDeep c es m c.settings.maxCallDepth := fun h => hrun ⟨_, h⟩
  constructor
  · exact exists_callDepth c.settings.maxCallDepth.toNat fun j hj =>
      Int.lt_toNat.2 (lt_of_calls hc hown hj)
  · refine fun D limit hD hlimit => ⟨fun hle => ?_, fun hpos hlt => ?_⟩
    · refine alike_of_le hc hown fun j hj => ?_
      have := hD.above j hj
      omega
    · -- the deepest call is beyond the smaller limit, but not beyond that of the run
      obtain ⟨j, rfl⟩ : ∃ j, D = j + 1 := ⟨D - 1, by omega⟩
      have hcalls := hD.reached j rfl
      have := lt_of_calls hc hown hcalls
      exact tooDeep_of_lt hlimit (by omega) hcalls (by omega)

/-- A function that prints, calls another one and prints again needs room for two calls. -/
theorem call_limit_two :
    let c : Context := ⟨{}, .standard⟩
    let m : Machine 0 := .atTop (startingScope .standard)
    let es : List Expr := [.define "g" [] [] "_none" none,
      .define "f" [] [printing "a", .call "g" [] none, printing "b"] "_none" none,
      .call "f" [] none]
    c.settings.maxCallDepth.natAbs < Numeral.writingLimit ∧ (¬ ∃ limit, TooDeep c es m limit) ∧
      CallDepth c (.program es m.world) 2 ∧ Alike c (c.limited 2) es m ∧
      TooDeep (c.limited 1) es m 1 ∧ PrintsFirst (c.limited 1) c es m ∧
      (evalEach (c.limited 1) es m).2.2.output = "a\n" ∧
      (evalEach c es m).2.2.output = "a\nb\n" := by
  intro c m es
  have hc : c.settings.maxCallDepth.natAbs < Numeral.writingLimit := by decide +kernel
  have hends : (evalEach c es m).2.1 = none := by decide +kernel
  have hends' : (evalEach (c.limited 2) es m).2.1 = none := by decide +kernel
  have hfails : (evalEach (c.limited 1) es m).2.1 ≠ none := by decide +kernel
  have hrun : ¬ ∃ limit, TooDeep c es m limit := by
    rintro ⟨limit, s, hs, -⟩
    rw [hends] at hs
    cases hs
  obtain ⟨⟨D, hD⟩, threshold⟩ := call_limit_threshold c es m hc hrun
  have one := threshold D 1 hD (by decide +kernel)
  have two := threshold D 2 hD (by decide +kernel)
  have hge : ¬ (D = 0 ∨ (D : Int) ≤ 1) := by
    intro hle
    rw [(one.1 hle).session] at hfails
    exact hfails hends
  have hle : ¬ 2 < (D : Int) := by
    intro hlt
    obtain ⟨⟨s, hs, -⟩, -⟩ := two.2 (by omega) hlt
    rw [hends'] at hs
    cases hs
  obtain rfl : D = 2 := by omega
  obtain ⟨htooDeep, hprints⟩ := one.2 (by decide) (by decide)
  exact ⟨hc, hrun, hD, two.1 (by decide), htooDeep, hprints, by decide +kernel, by decide +kernel⟩

end Program

end Scriptlet
