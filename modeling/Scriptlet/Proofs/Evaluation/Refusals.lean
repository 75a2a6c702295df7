import Scriptlet.Proofs.Evaluation.Visits

/-!
# What stricter settings change

Settings are looked at in three places: where a leaf has no value, where a value is bound to a
parameter or returned and has not the type that was declared, and where a function of the program is
called.  Under settings that are stricter in some of these places a phrase either ends as it would
under the others, or one of these places refuses to go on (`Evaluates.restricted`).  What was
printed until then is what would have been printed first.
-/

namespace Scriptlet

/-- From the world `w` to the world `w'`, something may have been printed. -/
def World.Prints (w w' : World) : Prop := ∃ s, w'.output = w.output ++ s

namespace World.Prints

variable {w w₁ w' : World}

lemma refl (w : World) : w.Prints w := ⟨"", by simp⟩

lemma of_output (h : w'.output = w.output) : w.Prints w' := ⟨"", by simp [h]⟩

lemma trans (h : w.Prints w₁) (h' : w₁.Prints w') : w.Prints w' := by
  obtain ⟨s, hs⟩ := h
  obtain ⟨s', hs'⟩ := h'
  exact ⟨s ++ s', by rw [hs', hs, String.append_assoc]⟩

end World.Prints

namespace Eval

open Phrase

variable {c : Context} {d : Nat}

lemma answer_prints (r : Registry) (name : String) (vs : List Value) (promised : ValueType)
    (w : World) : w.Prints (answer r name vs promised w).2 := by
  unfold answer
  cases r.find? name with
  | none => exact .refl w
  | some b =>
    dsimp only
    cases b.rejection? vs with
    | some cause => exact .refl w
    | none =>
      dsimp only
      cases (b.run vs).result with
      | error f => exact ⟨(b.run vs).printed, rfl⟩
      | ok v =>
        dsimp only
        split <;> exact ⟨(b.run vs).printed, rfl⟩

/-- What was printed stays printed. -/
theorem Evaluates.prints {α : Type} {p : Phrase α} {w w' : World} {o : Completion α}
    (h : Evaluates c d p w o w') : w.Prints w' := by
  induction h with
  | assign _ _ ih | assignExit _ _ ih | binaryExitLeft _ ih | callExit _ ih | ret _ ih
  | retExit _ ih | argsExit _ ih | bodyExit _ ih | user _ _ _ _ _ ih => exact ih
  | binary _ _ ih ih' | binaryExitRight _ _ ih ih' | call _ _ ih ih' | argsNext _ _ ih ih'
  | argsExitLater _ _ ih ih' | bodyNext _ _ ih ih' => exact ih.trans ih'
  | builtin h => exact answer_prints _ _ _ _ _
  | _ => exact .of_output rfl

/-! ## Refusals -/

/-- What is checked because settings say so. -/
inductive Check where
  /-- That a leaf has a value. -/
  | leaf
  /-- That a value is of the type that was declared. -/
  | type
  /-- That calls are not nested too deep. -/
  | depth
deriving DecidableEq

/-- `Refuses c r k f`: the check `r` does not let the evaluation of `k` go on, which fails with
`f`. -/
inductive Refuses (c : Context) : Check → Config → Failure → Prop
  /-- A leaf has no value. -/
  | leaf {d : Nat} {w : World} {t : Token} {s : Option Span} (h : t.kind ≠ .identifier)
      (hv : literal? t = none) (permitted : c.settings.permissiveLeaves = false) :
      Refuses c .leaf ⟨d, expr (.leaf t s), w⟩
        (.located (.invalidExpression (if t.lexeme.isEmpty then t.kind.name else t.lexeme)) s)
  /-- An argument is not of the type of its parameter. -/
  | argument {d : Nat} {w : World} {name : String} {vs : List Value} {s : Option Span}
      {f : UserFunction} {p : TypedParam} {v : Value}
      (h : w.scope.get? name = some (.fn (.user f)))
      (depth : (d : Int) < c.settings.maxCallDepth) (arity : vs.length = f.params.length)
      (hs : callScope c f vs s w.scope = .error (.located
        (.typeMismatch ("argument '" ++ p.name ++ "' of '" ++ f.name ++ "'") p.type.name
          [v.type]) s)) :
      Refuses c .type ⟨d, apply name vs s, w⟩ (.located
        (.typeMismatch ("argument '" ++ p.name ++ "' of '" ++ f.name ++ "'") p.type.name
          [v.type]) s)
  /-- A result is not of the type that was declared. -/
  | result {d : Nat} {w w' : World} {name : String} {vs : List Value} {s : Option Span}
      {f : UserFunction} {scope : Scope} {o : Completion Unit} {v : Value}
      (h : w.scope.get? name = some (.fn (.user f)))
      (depth : (d : Int) < c.settings.maxCallDepth) (arity : vs.length = f.params.length)
      (hs : callScope c f vs s w.scope = .ok scope)
      (ho : Evaluates c (d + 1) (body f.body) (entered d f w scope) o w')
      (hv : o.callValue = .ok v)
      (hr : checkResult c.settings f s v = .error (.located
        (.typeMismatch ("return value of '" ++ f.name ++ "'") f.returnType.name [v.type]) s)) :
      Refuses c .type ⟨d, apply name vs s, w⟩ (.located
        (.typeMismatch ("return value of '" ++ f.name ++ "'") f.returnType.name [v.type]) s)
  /-- A call is nested too deep. -/
  | depth {d : Nat} {w : World} {name : String} {vs : List Value} {s : Option Span}
      {f : UserFunction} (h : w.scope.get? name = some (.fn (.user f)))
      (depth : c.settings.maxCallDepth ≤ d) :
      Refuses c .depth ⟨d, apply name vs s, w⟩ (depthFailure c.settings.maxCallDepth s)

lemma Refuses.raises {r : Check} {k : Config} {f : Failure} (h : Refuses c r k f) :
    Raises c k f := by
  cases h with
  | leaf h hv permitted => exact .rejected h hv permitted
  | argument h depth arity hs => exact .unbindable h depth arity hs
  | result h depth arity hs ho hv hr => exact .result h depth arity hs ho hv hr
  | depth h depth => exact .tooDeep h depth

/-- The first settings are as strict as the second ones, and the built-in functions are the same. -/
structure Stricter (strict free : Context) : Prop where
  /-- The built-in functions. -/
  registry : strict.registry = free.registry
  /-- Whoever may not refuse a leaf does not. -/
  leaves : strict.settings.permissiveLeaves = true → free.settings.permissiveLeaves = true
  /-- Whoever checks types still does. -/
  types : free.settings.checkTypes = true → strict.settings.checkTypes = true
  /-- There is no more room for calls. -/
  depth : strict.settings.maxCallDepth ≤ free.settings.maxCallDepth

/-- The first settings make a check that the second ones do not make. -/
def Differs (strict free : Context) : Check → Prop
  | .leaf => strict.settings.permissiveLeaves ≠ free.settings.permissiveLeaves
  | .type => strict.settings.checkTypes ≠ free.settings.checkTypes
  | .depth => strict.settings.maxCallDepth ≠ free.settings.maxCallDepth

/-- Both evaluations come to a place where only the first one is refused to go on. -/
def Met (strict free : Context) (k : Config) (f : Failure) : Prop :=
  ∃ r k', Visits strict k k' ∧ Visits free k k' ∧ Refuses strict r k' f ∧ Differs strict free r

/-- The first evaluation is refused to go on, with nothing printed but what is printed on the way to
`w'`. -/
def Cut (strict free : Context) (k : Config) (w' : World) : Prop :=
  ∃ f w₁, Evaluates strict k.depth k.phrase k.world (.abrupt (.failed f)) w₁ ∧ w₁.Prints w' ∧
    Met strict free k f

section

variable {strict free : Context} {k k' : Config}

lemma Met.lift {f : Failure} (h : Met strict free k' f) (hs : Enters strict k k')
    (hf : Enters free k k') : Met strict free k f := by
  obtain ⟨r, k'', hv, hv', hr, hd⟩ := h
  exact ⟨r, k'', .head hs hv, .head hf hv', hr, hd⟩

lemma Met.fails {f : Failure} (h : Met strict free k f) : Fails strict k f := by
  obtain ⟨r, k', hv, -, hr, -⟩ := h
  exact fails_iff.2 ⟨k', hv, hr.raises⟩

/-- A part that is cut off cuts off the whole. -/
lemma Cut.lift {w₁ w' : World} (h : Cut strict free k' w₁) (hs : Enters strict k k')
    (hf : Enters free k k') (hw : w₁.Prints w') : Cut strict free k w' := by
  obtain ⟨f, w₂, hfails, hprints, hmet⟩ := h
  obtain ⟨w₃, hfails', houtput⟩ := hs.failed hfails
  refine ⟨f, w₃, hfails', ?_, hmet.lift hs hf⟩
  exact (World.Prints.of_output houtput.symm).trans (hprints.trans hw)

lemma Refuses.cut {r : Check} {f : Failure} {w₁ w' : World} (h : Refuses strict r k f)
    (hd : Differs strict free r)
    (he : Evaluates strict k.depth k.phrase k.world (.abrupt (.failed f)) w₁)
    (hw : w₁.Prints w') : Cut strict free k w' :=
  ⟨f, w₁, he, hw, r, k, .refl, .refl, h, hd⟩

end

/-! ## Checks of types -/

section

variable {strict free : Settings}

lemma passesCheck_of_stricter (h : free.checkTypes = true → strict.checkTypes = true)
    {type : ValueType} {v : Value} (hv : passesCheck strict type v = true) :
    passesCheck free type v = true := by
  unfold passesCheck at hv ⊢
  cases hfree : free.checkTypes with
  | false => rfl
  | true => rwa [h hfree] at hv

/-- Where a value passes the check of only one of the settings, they differ in whether types are
checked. -/
lemma checkTypes_ne {type : ValueType} {v : Value} (hstrict : ¬ passesCheck strict type v = true)
    (hfree : passesCheck free type v = true) : strict.checkTypes ≠ free.checkTypes := by
  intro h
  unfold passesCheck at hstrict hfree
  rw [h] at hstrict
  exact hstrict hfree

/-- Stricter settings bind arguments as others do, or find one of a wrong type. -/
lemma bindArguments_stricter (h : free.checkTypes = true → strict.checkTypes = true)
    (function : String) (vs : List Value) (span : Option Span) (ps : List TypedParam) (s : Scope) :
    bindArguments strict function vs span ps s = bindArguments free function vs span ps s ∨
      strict.checkTypes ≠ free.checkTypes ∧ ∃ (p : TypedParam) (v : Value),
        bindArguments strict function vs span ps s = .error (.located
          (.typeMismatch ("argument '" ++ p.name ++ "' of '" ++ function ++ "'") p.type.name
            [v.type]) span) := by
  induction ps generalizing s with
  | nil => exact .inl rfl
  | cons p ps ih =>
    simp only [bindArguments]
    cases argumentAt? vs p.index with
    | none => exact .inl rfl
    | some v =>
      dsimp only
      by_cases hstrict : passesCheck strict p.type v = true
      · rw [if_pos hstrict, if_pos (passesCheck_of_stricter h hstrict)]
        exact ih _
      · rw [if_neg hstrict]
        by_cases hfree : passesCheck free p.type v = true
        · exact .inr ⟨checkTypes_ne hstrict hfree, p, v, rfl⟩
        · rw [if_neg hfree]
          exact .inl rfl

/-- Stricter settings let a result pass as others do, or find that it is of a wrong type. -/
lemma checkResult_stricter (h : free.checkTypes = true → strict.checkTypes = true)
    (f : UserFunction) (span : Option Span) (v : Value) :
    checkResult strict f span v = checkResult free f span v ∨
      strict.checkTypes ≠ free.checkTypes ∧ checkResult strict f span v = .error (.located
        (.typeMismatch ("return value of '" ++ f.name ++ "'") f.returnType.name [v.type])
        span) := by
  unfold checkResult
  by_cases hnothing : f.returnType = .nothing
  · exact .inl (by simp [hnothing])
  · simp only [hnothing, decide_false, Bool.false_or]
    by_cases hstrict : passesCheck strict f.returnType v = true
    · rw [if_pos hstrict, if_pos (passesCheck_of_stricter h hstrict)]
      exact .inl rfl
    · rw [if_neg hstrict]
      by_cases hfree : passesCheck free f.returnType v = true
      · exact .inr ⟨checkTypes_ne hstrict hfree, rfl⟩
      · rw [if_neg hfree]
        exact .inl rfl

end

/-! ## The evaluation under stricter settings -/

section

variable {strict free : Context} {w w' : World} {name : String} {vs : List Value} {s : Option Span}
  {f : UserFunction}

/-- Calls are nested too deep for the stricter settings only. -/
lemma cut_of_depth (hf : w.scope.get? name = some (.fn (.user f)))
    (hstrict : strict.settings.maxCallDepth ≤ d) (hfree : (d : Int) < free.settings.maxCallDepth)
    (hw : w.Prints w') : Cut strict free ⟨d, apply name vs s, w⟩ w' :=
  have hlimits : strict.settings.maxCallDepth ≠ free.settings.maxCallDepth :=
    Int.ne_of_lt (Int.lt_of_le_of_lt hstrict hfree)
  (Refuses.depth hf hstrict).cut hlimits (.tooDeep hf hstrict) hw

/-- A call under stricter settings starts as it does under others, or it is cut off. -/
lemma callScope_stricter (h : Stricter strict free)
    (hf : w.scope.get? name = some (.fn (.user f)))
    (depth : (d : Int) < strict.settings.maxCallDepth) (arity : vs.length = f.params.length)
    (hw : w.Prints w') : callScope strict f vs s w.scope = callScope free f vs s w.scope ∨
      Cut strict free ⟨d, apply name vs s, w⟩ w' := by
  obtain hsame | ⟨htypes, p, v, hs⟩ := bindArguments_stricter h.types f.name vs s f.params
    (w.scope.snapshot ("call:" ++ f.name))
  · exact .inl hsame
  · exact .inr ((Refuses.argument hf depth arity hs).cut htypes (.unbindable hf depth arity hs) hw)

/-- A call under stricter settings ends as it does under others, or it is cut off. -/
lemma evaluates_user_stricter (h : Stricter strict free)
    (hf : w.scope.get? name = some (.fn (.user f)))
    (depth : (d : Int) < strict.settings.maxCallDepth) (arity : vs.length = f.params.length)
    {scope : Scope} (hs : callScope strict f vs s w.scope = .ok scope) {o : Completion Unit}
    (ho : Evaluates strict (d + 1) (body f.body) (entered d f w scope) o w') :
    Evaluates strict d (apply name vs s) w
        (.ofResult (o.callValue.bind (checkResult free.settings f s)))
        ⟨w.scope, w'.output, w'.log⟩ ∨
      Cut strict free ⟨d, apply name vs s, w⟩ ⟨w.scope, w'.output, w'.log⟩ := by
  have hcall := Evaluates.user hf depth arity hs ho
  cases hv : o.callValue with
  | error e =>
    rw [hv] at hcall
    exact .inl hcall
  | ok v =>
    rw [hv] at hcall
    obtain hsame | ⟨htypes, hr⟩ := checkResult_stricter h.types f s v
    · rw [Except.bind, hsame] at hcall
      exact .inl hcall
    · rw [Except.bind, hr] at hcall
      exact .inr ((Refuses.result hf depth arity hs ho hv hr).cut htypes hcall (.refl _))

/-- **Stricter settings only refuse.**  Under them a phrase is evaluated to what it is evaluated to
under the others, or its evaluation is cut off. -/
theorem Evaluates.restricted (h : Stricter strict free) {α : Type} {p : Phrase α} {w w' : World}
    {o : Completion α} (he : Evaluates free d p w o w') :
    Evaluates strict d p w o w' ∨ Cut strict free ⟨d, p, w⟩ w' := by
  induction he with
  | literal hv => exact .inl (.literal hv)
  | bound h' hv => exact .inl (.bound h' hv)
  | unbound h' hv => exact .inl (.unbound h' hv)
  | @passedOver d w t s h' hv permitted =>
    cases hstrict : strict.settings.permissiveLeaves with
    | true => exact .inl (.passedOver h' hv hstrict)
    | false =>
      have hdiffers : Differs strict free .leaf := by
        rw [Differs, hstrict, permitted]
        decide
      exact .inr ((Refuses.leaf h' hv hstrict).cut hdiffers (.rejected h' hv hstrict)
        (.of_output rfl))
  | rejected h' hv permitted =>
    refine .inl (.rejected h' hv ?_)
    cases hstrict : strict.settings.permissiveLeaves with
    | false => rfl
    | true => exact (h.leaves hstrict).symm.trans permitted
  | assignNothing h' => exact .inl (.assignNothing h')
  | assign h' hv ih =>
    obtain hv' | hcut := ih
    · exact .inl (.assign h' hv')
    · exact .inr (hcut.lift (.value h') (.value h') (.of_output rfl))
  | assignExit h' hv ih =>
    obtain hv' | hcut := ih
    · exact .inl (.assignExit h' hv')
    · exact .inr (hcut.lift (.value h') (.value h') (.refl _))
  | binary hl hr ihl ihr =>
    obtain hl' | hcut := ihl
    · obtain hr' | hcut := ihr
      · exact .inl (.binary hl' hr')
      · exact .inr (hcut.lift (.right hl') (.right hl) (.refl _))
    · exact .inr (hcut.lift .left .left hr.prints)
  | binaryExitLeft hl ih =>
    obtain hl' | hcut := ih
    · exact .inl (.binaryExitLeft hl')
    · exact .inr (hcut.lift .left .left (.refl _))
  | binaryExitRight hl hr ihl ihr =>
    obtain hl' | hcut := ihl
    · obtain hr' | hcut := ihr
      · exact .inl (.binaryExitRight hl' hr')
      · exact .inr (hcut.lift (.right hl') (.right hl) (.refl _))
    · exact .inr (hcut.lift .left .left hr.prints)
  | call hes ho ihes iho =>
    obtain hes' | hcut := ihes
    · obtain ho' | hcut := iho
      · exact .inl (.call hes' ho')
      · exact .inr (hcut.lift (.callee hes') (.callee hes) (.refl _))
    · exact .inr (hcut.lift .arguments .arguments ho.prints)
  | callExit hes ih =>
    obtain hes' | hcut := ih
    · exact .inl (.callExit hes')
    · exact .inr (hcut.lift .arguments .arguments (.refl _))
  | define h' => exact .inl (.define h')
  | defineExit h' => exact .inl (.defineExit h')
  | retOutside => exact .inl .retOutside
  | ret h' ih =>
    obtain he' | hcut := ih
    · exact .inl (.ret he')
    · exact .inr (hcut.lift .operand .operand (.refl _))
  | retExit h' ih =>
    obtain he' | hcut := ih
    · exact .inl (.retExit he')
    · exact .inr (hcut.lift .operand .operand (.refl _))
  | hole => exact .inl .hole
  | argsEnd => exact .inl .argsEnd
  | argsNext he hes ih ihs =>
    obtain he' | hcut := ih
    · obtain hes' | hcut := ihs
      · exact .inl (.argsNext he' hes')
      · exact .inr (hcut.lift (.moreArgs he') (.moreArgs he) (.refl _))
    · exact .inr (hcut.lift .firstArg .firstArg hes.prints)
  | argsExit he ih =>
    obtain he' | hcut := ih
    · exact .inl (.argsExit he')
    · exact .inr (hcut.lift .firstArg .firstArg (.refl _))
  | argsExitLater he hes ih ihs =>
    obtain he' | hcut := ih
    · obtain hes' | hcut := ihs
      · exact .inl (.argsExitLater he' hes')
      · exact .inr (hcut.lift (.moreArgs he') (.moreArgs he) (.refl _))
    · exact .inr (hcut.lift .firstArg .firstArg hes.prints)
  | undefined h' => exact .inl (.undefined h')
  | notCallable h' hv => exact .inl (.notCallable h' hv)
  | @builtin d w name builtinName vs s promised h' =>
    have hcall := @Evaluates.builtin strict d w name builtinName vs s promised h'
    rw [h.registry] at hcall
    exact .inl hcall
  | @tooDeep d w name vs s f hf depth =>
    by_cases hsame : strict.settings.maxCallDepth = free.settings.maxCallDepth
    · rw [← hsame] at depth ⊢
      exact .inl (.tooDeep hf depth)
    · have hstrict := Int.le_trans h.depth depth
      exact .inr ((Refuses.depth hf hstrict).cut hsame (.tooDeep hf hstrict) (.refl _))
  | @wrongArity d w name vs s f hf depth arity =>
    obtain hstrict | hstrict := Int.lt_or_le (d : Int) strict.settings.maxCallDepth
    · exact .inl (.wrongArity hf hstrict arity)
    · exact .inr (cut_of_depth hf hstrict depth (.refl _))
  | @unbindable d w name vs s f e hf depth arity hs =>
    obtain hstrict | hstrict := Int.lt_or_le (d : Int) strict.settings.maxCallDepth
    · obtain hsame | hcut := callScope_stricter h hf hstrict arity (.refl w)
      · exact .inl (.unbindable hf hstrict arity (hsame.trans hs))
      · exact .inr hcut
    · exact .inr (cut_of_depth hf hstrict depth (.refl _))
  | @user d w w' name vs s f scope o hf depth arity hs ho ih =>
    have hprints : w.Prints ⟨w.scope, w'.output, w'.log⟩ := ho.prints
    obtain hstrict | hstrict := Int.lt_or_le (d : Int) strict.settings.maxCallDepth
    · obtain hsame | hcut := callScope_stricter h hf hstrict arity hprints
      · have hs' := hsame.trans hs
        obtain ho' | hcut := ih
        · exact evaluates_user_stricter h hf hstrict arity hs' ho'
        · refine .inr (hcut.lift (.body hf hstrict arity hs') (.body hf depth arity hs) ?_)
          exact .of_output rfl
      · exact .inr hcut
    · exact .inr (cut_of_depth hf hstrict depth hprints)
  | bodyEnd => exact .inl .bodyEnd
  | bodyNext he hes ih ihs =>
    obtain he' | hcut := ih
    · obtain hes' | hcut := ihs
      · exact .inl (.bodyNext he' hes')
      · exact .inr (hcut.lift (.moreStatements he') (.moreStatements he) (.refl _))
    · exact .inr (hcut.lift .firstStatement .firstStatement hes.prints)
  | bodyExit he ih =>
    obtain he' | hcut := ih
    · exact .inl (.bodyExit he')
    · exact .inr (hcut.lift .firstStatement .firstStatement (.refl _))

variable {k k' : Config}

lemma Cut.met (h : Cut strict free k w') : ∃ e, Met strict free k e := by
  obtain ⟨e, -, -, -, hmet⟩ := h
  exact ⟨e, hmet⟩

/-- A part that is cut off before another one can be entered. -/
lemma Cut.met_of_enters (h : Cut strict free k' w') (hs : Enters strict k k')
    (hf : Enters free k k') : ∃ e, Met strict free k e := by
  obtain ⟨e, hmet⟩ := h.met
  exact ⟨e, hmet.lift hs hf⟩

/-- What is entered is entered under stricter settings, too, or a check lies in the way. -/
lemma Enters.restricted (h : Stricter strict free) (he : Enters free k k') :
    Enters strict k k' ∨ ∃ e, Met strict free k e := by
  cases he with
  | value ht => exact .inl (.value ht)
  | left => exact .inl .left
  | right hl =>
    obtain hl' | hcut := hl.restricted h
    · exact .inl (.right hl')
    · exact .inr (hcut.met_of_enters .left .left)
  | arguments => exact .inl .arguments
  | callee hes =>
    obtain hes' | hcut := hes.restricted h
    · exact .inl (.callee hes')
    · exact .inr (hcut.met_of_enters .arguments .arguments)
  | operand => exact .inl .operand
  | firstArg => exact .inl .firstArg
  | moreArgs he =>
    obtain he' | hcut := he.restricted h
    · exact .inl (.moreArgs he')
    · exact .inr (hcut.met_of_enters .firstArg .firstArg)
  | @body d w name vs s f scope hf depth arity hs =>
    obtain hstrict | hstrict := Int.lt_or_le (d : Int) strict.settings.maxCallDepth
    · obtain hsame | hcut := callScope_stricter h hf hstrict arity (.refl w)
      · exact .inl (.body hf hstrict arity (hsame.trans hs))
      · exact .inr hcut.met
    · exact .inr (cut_of_depth hf hstrict depth (.refl w)).met
  | firstStatement => exact .inl .firstStatement
  | moreStatements he =>
    obtain he' | hcut := he.restricted h
    · exact .inl (.moreStatements he')
    · exact .inr (hcut.met_of_enters .firstStatement .firstStatement)

/-- What is come by is come by under stricter settings, too, or a check lies in the way. -/
theorem Visits.restricted (h : Stricter strict free) (hv : Visits free k k') :
    Visits strict k k' ∨ ∃ e, Met strict free k e := by
  induction hv using Relation.ReflTransGen.head_induction_on with
  | refl => exact .inl .refl
  | head henter _ ih =>
    obtain henter' | hmet := henter.restricted h
    · obtain hvisits | ⟨e, hmet⟩ := ih
      · exact .inl (.head henter' hvisits)
      · exact .inr ⟨e, hmet.lift henter' henter⟩
    · exact .inr hmet

end

end Eval

end Scriptlet
