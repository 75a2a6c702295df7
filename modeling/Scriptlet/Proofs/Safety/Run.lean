import Scriptlet.Proofs.Evaluation.Runs
import Scriptlet.Proofs.Printing.Reread
import Scriptlet.Proofs.Safety.Regular
import Scriptlet.Proofs.Safety.Standard
import Scriptlet.Proofs.Scanning.Faults

/-!
# What can go wrong in a run

A run from a text, with the built-in functions of the language, stays in the domain of its program:
the nodes of its trees, the functions that those define, and the handles to the built-in functions.
As the trees are regular, few of the failures that evaluation could end with are left
(`Program.run_safe`).
-/

namespace Scriptlet

open Token

/-! ## The failures of operators and calls -/

lemma Operator.code_of_apply {op : Operator} {l r : Value} {cause : Cause}
    (h : op.apply l r = .error cause) : cause.code = "E404" ∨ cause.code = "E405" := by
  simp only [apply] at h
  split at h
  case h_5 => split at h <;> cases h; simp [Cause.code]
  case h_6 | h_7 => split at h <;> cases h; simp [Cause.code]
  case h_8 => cases h; simp [Cause.code]
  all_goals cases h

lemma checkResult_eq_error {settings : Settings} {f : UserFunction} {span : Option Span} {v : Value}
    {e : Failure} (h : checkResult settings f span v = .error e) :
    ∃ cause, e = .located cause span ∧ cause.code = "E404" := by
  unfold checkResult at h
  split at h
  · cases h
  · cases h
    exact ⟨_, rfl, rfl⟩

lemma argumentAt?_of_lt {args : List Value} {index : Int} (h0 : 0 ≤ index)
    (h : index < args.length) : ∃ v, argumentAt? args index = some v := by
  have hlt : index.toNat < args.length := by omega
  refine ⟨args[index.toNat], ?_⟩
  rw [argumentAt?, if_pos h0]
  exact List.getElem?_eq_getElem hlt

/-- Where there is an argument for each parameter, only a type can be wrong. -/
lemma bindArguments_eq_error {settings : Settings} {function : String} {vs : List Value}
    {span : Option Span} {ps : List TypedParam} {s : Scope} {e : Failure}
    (hps : ∀ p ∈ ps, 0 ≤ p.index ∧ p.index < vs.length)
    (h : bindArguments settings function vs span ps s = .error e) :
    ∃ cause, e = .located cause span ∧ cause.code = "E404" := by
  induction ps generalizing s with
  | nil => cases h
  | cons p ps ih =>
    obtain ⟨h0, hlt⟩ := hps p (by simp)
    obtain ⟨v, hv⟩ := argumentAt?_of_lt h0 hlt
    rw [bindArguments, hv] at h
    dsimp only at h
    split at h
    · exact ih (fun q hq => hps q (by simp [hq])) h
    · cases h
      exact ⟨_, rfl, rfl⟩

namespace Program

open Eval

/-! ## The domain of a program -/

/-- The function is a handle to a built-in function, or the program has its definition. -/
def IsFunction (es : List Expr) : Function → Prop
  | .builtin name type => ∃ b, Registry.standard.find? name = some b ∧ b.returnType = type
  | .user f => ∃ ps returnType s, .define f.name ps f.body returnType s ∈ Expr.allNodes es ∧
      resolveSignature ps returnType s = .ok (f.params, f.returnType)

/-- What a program deals in. -/
def domain (settings : Settings) (es : List Expr) : Domain ⟨settings, .standard⟩ where
  node n := n ∈ Expr.allNodes es
  function := IsFunction es
  define h hs := ⟨_, _, _, h, hs⟩
  body h n hn := by
    obtain ⟨ps, returnType, s, hdefine, -⟩ := h
    exact Expr.allNodes_subset hdefine (List.mem_cons_of_mem _ hn)
  reply h _ hf := by
    have htype := Registry.type_standard h hf
    have hall : ∀ b ∈ Registry.standard.builtins, ValueType.fn ≠ b.returnType := by decide
    exact absurd htype (hall _ (Registry.mem_of_find? h))

variable {settings : Settings} {es : List Expr}

lemma hasScope_startingScope :
    (domain settings es).HasScope (startingScope .standard) := by
  refine Domain.HasScope.populate nofun fun b hb => ?_
  simp only [Registry.standard, List.mem_cons, List.not_mem_nil, or_false] at hb
  rcases hb with rfl | rfl | rfl | rfl | rfl | rfl <;> exact ⟨_, rfl, rfl⟩

lemma hasScope_of_comes {i : Nat} {fs : List Expr} {e : Expr} {w w' : World}
    (h : Comes ⟨settings, .standard⟩ i fs w e w') (hfs : (domain settings es).HasTrees fs)
    (hs : (domain settings es).HasScope w.scope) :
    (domain settings es).HasTree e ∧ (domain settings es).HasScope w'.scope := by
  induction h with
  | first => exact ⟨(Domain.hasTrees_cons.1 hfs).1, hs⟩
  | behind he _ ih =>
    obtain ⟨hfirst, hmore⟩ := Domain.hasTrees_cons.1 hfs
    exact ih hmore (Domain.ends he hfirst hs).2

/-- All that a run comes by is of the domain of its program. -/
lemma hasConfig_of_visits {source : Source} (hes : source.statements.2 = .ok es) {k : Config}
    (h : Visits ⟨settings, .standard⟩ source k) : (domain settings es).HasConfig k := by
  obtain ⟨fs, e, w, hfs, hcomes, hvisits⟩ := h
  obtain rfl : es = fs := Except.ok.inj (hes.symm.trans hfs)
  have hstart : (domain settings es).HasTrees es := fun n hn => hn
  exact Domain.visits hvisits (hasScope_of_comes hcomes hstart hasScope_startingScope)

/-! ## What is to blame -/

/-- The codes of the errors that evaluation ends with, but for leaves without a value. -/
def evaluationCodes : List String :=
  ["E401", "E402", "E403", "E404", "E405", "E406", "E408", "E411", "E412", "E413"]

/-- What evaluating the phrase can fail with, in a run of the statements. -/
inductive Blames (settings : Settings) (es : List Expr) : Config → Failure → Prop
  /-- An error of the language with one of the codes. -/
  | error {k : Config} {cause : Cause} {s : Option Span} (h : cause.code ∈ evaluationCodes) :
      Blames settings es k (.located cause s)
  /-- An error leaf of the statements, unless such leaves are permitted. -/
  | errorLeaf {d : Nat} {w : World} {t : Token} {s : Option Span} {found : String}
      (h : .leaf t s ∈ Expr.allNodes es) (ht : t.kind = .error)
      (hp : settings.permissiveLeaves = false) :
      Blames settings es ⟨d, .expr (.leaf t s), w⟩ (.located (.invalidExpression found) s)
  /-- A call of a built-in function with a numeral that is too long. -/
  | tooLong {d : Nat} {w : World} {name builtinName : String} {vs : List Value} {s : Option Span}
      {promised : ValueType} {reason : Numeral.TooLong}
      (h : w.scope.get? name = some (.fn (.builtin builtinName promised)))
      (hr : Builtin.TooLong builtinName vs reason) :
      Blames settings es ⟨d, .apply name vs s, w⟩ (.tooLong reason)

lemma blames_leaf {d : Nat} {w : World} {t : Token} {s : Option Span} {found : String}
    (hleaf : .leaf t s ∈ Expr.allNodes es) (hregular : (Expr.leaf t s).Regular)
    (hname : t.kind ≠ .identifier) (hv : literal? t = none)
    (hp : settings.permissiveLeaves = false) :
    Blames settings es ⟨d, .expr (.leaf t s), w⟩ (.located (.invalidExpression found) s) := by
  rcases hregular with ht | ht | ht
  · exact .errorLeaf hleaf ht hp
  · exact absurd ht hname
  · rw [hv] at ht
    cases ht

/-- A handle of the program never breaks its promise. -/
lemma type_of_isFunction {name : String} {promised : ValueType}
    (h : IsFunction es (.builtin name promised)) :
    ∃ b, Registry.standard.find? name = some b ∧
      ∀ vs v, (b.run vs).result = .ok v → v.type = promised := by
  obtain ⟨b, hb, rfl⟩ := h
  exact ⟨b, hb, fun vs v hv => Registry.type_standard hb hv⟩

lemma blames_builtin {d : Nat} {w w₁ : World} {name builtinName : String} {vs : List Value}
    {s : Option Span} {promised : ValueType} {f : Failure}
    (h : w.scope.get? name = some (.fn (.builtin builtinName promised)))
    (hfn : IsFunction es (.builtin builtinName promised))
    (ha : (answer .standard builtinName vs promised w₁).1 = .error f) :
    Blames settings es ⟨d, .apply name vs s, w⟩ f := by
  obtain ⟨b, hb, htype⟩ := type_of_isFunction hfn
  simp only [answer, hb] at ha
  cases hrejection : b.rejection? vs with
  | some cause =>
    rw [hrejection] at ha
    cases ha
    rcases Builtin.code_of_rejection? hrejection with hcode | hcode <;>
      exact .error (by simp [hcode, evaluationCodes])
  | none =>
    rw [hrejection] at ha
    dsimp only at ha
    split at ha
    · rename_i f' hrun
      cases ha
      rcases Registry.failsFor_standard hb hrejection hrun with
        ⟨cause, rfl, hcode⟩ | ⟨reason, rfl, hlong⟩
      · rcases hcode with hcode | hcode <;> exact .error (by simp [hcode, evaluationCodes])
      · exact .tooLong h hlong
    · rename_i v hrun
      rw [if_pos (htype vs v hrun)] at ha
      cases ha

lemma index_of_isFunction (hregular : ∀ n ∈ Expr.allNodes es, n.Regular) {f : UserFunction}
    (h : IsFunction es (.user f)) :
    ∀ p ∈ f.params, 0 ≤ p.index ∧ p.index < f.params.length := by
  obtain ⟨ps, returnType, s, hdefine, hsignature⟩ := h
  obtain ⟨params, type, hsignature', hindex⟩ := hregular _ hdefine
  cases hsignature.symm.trans hsignature'
  exact hindex

/-- Where the trees are regular, a failure is one of those that are listed. -/
lemma blames_of_raises (hlimit : settings.maxCallDepth.natAbs < Numeral.writingLimit)
    (hregular : ∀ n ∈ Expr.allNodes es, n.Regular) {k : Config} {f : Failure}
    (hk : (domain settings es).HasConfig k) (h : Raises ⟨settings, .standard⟩ k f) :
    Blames settings es k f := by
  obtain ⟨hp, hs⟩ := hk
  cases h with
  | unbound | outside | undefined | notCallable | wrongArity =>
    exact .error (by simp [Cause.code, evaluationCodes])
  | rejected hname hv permitted =>
    have hleaf := Domain.HasTree.node hp
    exact blames_leaf hleaf (hregular _ hleaf) hname hv permitted
  | assignNothing h =>
    -- regular trees assign to names only
    have htarget := hregular _ (Domain.HasTree.node hp)
    rw [Expr.Regular, h] at htarget
    cases htarget
  | operator _ _ h =>
    rcases Operator.code_of_apply h with hcode | hcode <;>
      exact .error (by simp [hcode, evaluationCodes])
  | define h =>
    obtain ⟨params, type, hsignature, -⟩ := hregular _ (Domain.HasTree.node hp)
    cases h.symm.trans hsignature
  | hole => exact absurd (hregular _ (Domain.HasTree.node hp)) id
  | builtin h ha => exact blames_builtin h (hs _ _ h _ rfl) ha
  | tooDeep h depth =>
    rw [depthFailure_eq hlimit]
    exact .error (by simp [Cause.code, evaluationCodes])
  | unbindable h depth arity hcall =>
    -- there are as many arguments as parameters, and those are numbered without a gap
    have hindex := index_of_isFunction hregular (hs _ _ h _ rfl)
    rw [← arity] at hindex
    obtain ⟨cause, rfl, hcode⟩ := bindArguments_eq_error hindex hcall
    exact .error (by simp [hcode, evaluationCodes])
  | result h depth arity hcall ho hv hr =>
    obtain ⟨cause, rfl, hcode⟩ := checkResult_eq_error hr
    exact .error (by simp [hcode, evaluationCodes])

/-! ## Runs -/

/-- Why a run from a text may fail. -/
inductive Accounts (settings : Settings) (source : Source) : Failure → Prop
  /-- The text cannot be divided into tokens. -/
  | lexing {ts : List Token} {s : Scanner} {e : LangError}
      (hs : (Scanner.ofSource source).Reaches ts s) (he : s.next.1 = .error e)
      (code : e.code ∈ ["E001", "E002", "E004", "E005"]) : Accounts settings source (.language e)
  /-- An integer literal has too many digits. -/
  | literal {ts : List Token} {s : Scanner} {n : Nat}
      (hs : (Scanner.ofSource source).Reaches ts s) (h : s.AtTooLong n) :
      Accounts settings source (.tooLong (.reading n))
  /-- The tokens are no program. -/
  | reading {ts : List Token} {stop : Stop} (hts : source.tokens = .ok ts)
      (h : readProgram ts = .error stop) (code : stop.error.code ∈ ["E101", "E102"]) :
      Accounts settings source (.language stop.error)
  /-- The run comes by a place that raises the failure. -/
  | evaluation {es : List Expr} {k : Config} {f : Failure} (hes : source.statements.2 = .ok es)
      (hk : Visits ⟨settings, .standard⟩ source k) (hr : Raises ⟨settings, .standard⟩ k f)
      (hb : Blames settings es k f) : Accounts settings source f

lemma code_of_blames {ts : List Token} {stop : Stop} (hts : ∀ t ∈ ts, Lexed t)
    (h : Grammar.Blames ts stop) : stop.error.code ∈ ["E101", "E102"] := by
  rcases h with ⟨what, h⟩ | ⟨what, h⟩ | ⟨t, ht, hkind, hnone, -⟩
  · simp [LangError.code, h, Cause.code]
  · simp [LangError.code, h, Cause.code]
  · obtain ⟨op, hop⟩ := (hts t ht).ofSymbol? hkind
    rw [hnone] at hop
    cases hop

lemma accounts_of_statements {source : Source} {f : Failure}
    (h : source.statements.2 = .error f) : Accounts settings source f := by
  cases htokens : source.tokens with
  | error g =>
    rw [Source.statements_of_error htokens] at h
    cases h
    obtain ⟨ts, s, hreach, ⟨e, he, rfl⟩ | ⟨n, hlong, rfl⟩⟩ := Scanner.reaches_fault htokens
    · exact .lexing hreach he (Scanner.code_next he)
    · exact .literal hreach hlong
  | ok us =>
    obtain ⟨ts, t, rfl, ht, hts⟩ := Scanner.lexed_tokens htokens
    have hread := Grammar.readsAll_readProgram hts ht
    rw [Source.statements_of_tokens htokens] at h
    cases hprogram : readProgram (ts ++ [t]) with
    | ok es =>
      rw [hprogram] at h
      cases h
    | error stop =>
      rw [hprogram] at h hread
      cases h
      exact .reading htokens hprogram (code_of_blames hts hread)

lemma regular_of_statements {source : Source} (h : source.statements.2 = .ok es) :
    ∀ n ∈ Expr.allNodes es, n.Regular := by
  obtain ⟨ts, t, -, -, hts, hderives⟩ := Source.derives_of_statements h
  exact hderives.regular hts

lemma accounts_of_runStatements (hlimit : settings.maxCallDepth.natAbs < Numeral.writingLimit)
    {source : Source} (hes : source.statements.2 = .ok es) {f : Failure}
    (h : (runStatements ⟨settings, .standard⟩ 0 es
      (start .standard source.statements.1)).1 = .error f) : Accounts settings source f := by
  obtain ⟨e, w, hcomes, hfails⟩ := comes_of_runStatements h
  obtain ⟨k, hvisits, hraises⟩ := fails_iff.1 hfails
  have hk : Visits ⟨settings, .standard⟩ source k := ⟨es, e, w, hes, hcomes, hvisits⟩
  refine .evaluation hes hk hraises ?_
  exact blames_of_raises hlimit (regular_of_statements hes) (hasConfig_of_visits hes hk) hraises

/-- A run fails because the text cannot be read or because a statement fails. -/
lemma failure_run {c : Context} {source : Source} {f : Failure}
    (h : (run c source).failure = some f) :
    ∃ g, f = g.attach source.text ∧ (source.statements.2 = .error g ∨
      ∃ es, source.statements.2 = .ok es ∧
        (runStatements c 0 es (start c.registry source.statements.1)).1 = .error g) := by
  unfold run at h
  split at h
  · rename_i notes g hstatements
    cases h
    exact ⟨g, rfl, .inl (by rw [hstatements])⟩
  · rename_i notes es hstatements
    unfold execute at h
    split at h
    · cases h
    · rename_i g m hrun
      cases h
      refine ⟨g, rfl, .inr ⟨es, by rw [hstatements], ?_⟩⟩
      rw [hstatements, hrun]

/-- **Runs from texts are safe.**  With the built-in functions of the language and a limit of calls
that can be written, a run fails for one of the listed reasons only: no argument is ever missing, no
operator, no type and no built-in function is unknown, and numerals are the only thing that can be
too long.  And whatever handle to a built-in function a run calls, the function is there and gives
values of the type that the handle promises. -/
theorem run_safe (settings : Settings) (source : Source)
    (hlimit : settings.maxCallDepth.natAbs < Numeral.writingLimit) :
    (∀ f, (run ⟨settings, .standard⟩ source).failure = some f →
      ∃ g, Accounts settings source g ∧ f = g.attach source.text) ∧
    ∀ d name vs s w builtinName promised,
      Visits ⟨settings, .standard⟩ source ⟨d, .apply name vs s, w⟩ →
      w.scope.get? name = some (.fn (.builtin builtinName promised)) →
      ∃ b, Registry.standard.find? builtinName = some b ∧
        ∀ v, (b.run vs).result = .ok v → v.type = promised := by
  constructor
  · intro f hf
    obtain ⟨g, rfl, h | ⟨es, hes, h⟩⟩ := failure_run hf
    · exact ⟨g, accounts_of_statements h, rfl⟩
    · exact ⟨g, accounts_of_runStatements hlimit hes h, rfl⟩
  · intro d name vs s w builtinName promised hvisits h
    have ⟨es, _, _, hes, _⟩ := hvisits
    have hconfig := hasConfig_of_visits hes hvisits
    have hfn : IsFunction es (.builtin builtinName promised) := hconfig.2 _ _ h _ rfl
    obtain ⟨b, hb, htype⟩ := type_of_isFunction hfn
    exact ⟨b, hb, htype vs⟩

/-- The second semicolon of `;;` ends a statement that is an error leaf, the first one. -/
theorem run_safe_errorLeaf :
    ∃ g, Accounts {} ⟨";;", none⟩ g ∧ g.attach ";;" = .language ⟨.invalidExpression ";",
      ⟨some ⟨.start, ⟨1, 2, 1⟩, none⟩, some ";;"⟩⟩ := by
  have hlimit : ({} : Settings).maxCallDepth.natAbs < Numeral.writingLimit := by decide +kernel
  obtain ⟨g, hg, hattach⟩ := (run_safe {} ⟨";;", none⟩ hlimit).1
    (.language ⟨.invalidExpression ";", ⟨some ⟨.start, ⟨1, 2, 1⟩, none⟩, some ";;"⟩⟩)
    (by decide +kernel)
  exact ⟨g, hg, hattach.symm⟩

end Program

end Scriptlet
