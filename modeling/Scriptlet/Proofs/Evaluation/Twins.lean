import Scriptlet.Proofs.Evaluation.Blindness
import Scriptlet.Proofs.Evaluation.Runs
import Scriptlet.Proofs.Grammar.Nodes
import Scriptlet.Proofs.Printing.Reread

/-!
# Programs that say the same run the same

Of the tokens in the tree of a text, each that is no literal carries the text that it was read from
(`Spelled`).  So trees of texts that say the same are equal but for places and the spellings of
literals (`plains_of_allSame`), which a run does not look at (`Program.run_twin`).
-/

namespace Scriptlet

open Token

/-! ## Trees of texts -/

namespace Token

/-- Unless it is a literal, the token carries its text. -/
def Spelled (t : Token) : Prop := Eval.literal? t = none → t.payload = .text t.lexeme

/-- The token with the text that it carries. -/
def respell (t : Token) : Token :=
  { t with span := none, lexeme := if (Eval.literal? t).isSome then "" else t.payload.display }

lemma Spelled.plain_eq {t : Token} (h : t.Spelled) : t.plain = t.bare.respell := by
  have hliteral : Eval.literal? t.bare = Eval.literal? t := rfl
  unfold plain respell
  rw [hliteral]
  cases hv : Eval.literal? t with
  | some v => rfl
  | none =>
    have hlexeme : t.bare.payload.display = t.lexeme := by
      show t.payload.display = t.lexeme
      rw [h hv]
      rfl
    rw [hlexeme]
    rfl

lemma Lexed.spelled {t : Token} (h : Lexed t) : t.Spelled := by
  intro hv
  cases h with
  | @word w span hw =>
    obtain ⟨rfl, h⟩ | ⟨rfl, h⟩ | ⟨b, -, h⟩ | ⟨-, h⟩ | h := classifyWord_cases w
    · rfl
    · rfl
    · simp [ofWord, h, Eval.literal?] at hv
    · simp [ofWord, h]
    · simp [ofWord, h]
  | int | string => cases hv
  | symbol => rfl

lemma literal?_eq_none {t : Token} (h : Grammar.isStray t.kind = true) :
    Eval.literal? t = none := by
  unfold Eval.literal?
  split <;> simp_all [Grammar.isStray]

lemma Lexed.spelled_asError {t : Token} (h : Lexed t) (ht : Grammar.isStray t.kind = true) :
    t.asError.Spelled :=
  fun _ => h.spelled (literal?_eq_none ht)

end Token

namespace Expr

/-- The tokens of the node itself carry their texts. -/
def Spelled : Expr → Prop
  | leaf t _ => t.Spelled
  | define _ ps _ _ _ => ∀ p ∈ ps, p.typeToken.Spelled
  | _ => True

lemma mapToken_eq {p : Param} (h : p.typeToken.Spelled) :
    p.mapToken Token.plain = p.bare.mapToken respell := by
  simp [Param.mapToken, Param.bare, h.plain_eq]

/-- A tree whose tokens carry their texts is told by what it says. -/
lemma plain_eq {e : Expr} (h : ∀ n ∈ e.nodes, n.Spelled) :
    e.plain = e.bare.mapTokens respell := by
  induction e using Expr.induction with
  | leaf t s =>
    have ht : t.Spelled := h _ (List.mem_singleton_self _)
    rw [plain_leaf, ht.plain_eq]
    rfl
  | assign target value s ihl ihr =>
    rw [plain_assign, ihl fun n hn => h n (by simp [nodes, hn]),
      ihr fun n hn => h n (by simp [nodes, hn])]
    rfl
  | binary op left right s ihl ihr =>
    rw [plain_binary, ihl fun n hn => h n (by simp [nodes, hn]),
      ihr fun n hn => h n (by simp [nodes, hn])]
    rfl
  | call name args s ih =>
    have hargs : plains args = (bares args).map (mapTokens respell) := by
      rw [bares_eq_map, List.map_map]
      refine List.map_congr_left fun a ha => ih a ha fun n hn => h n ?_
      exact List.mem_cons_of_mem _ (mem_allNodes.2 ⟨a, ha, hn⟩)
    rw [plain_call, hargs, ← mapAllTokens_eq_map]
    rfl
  | define name ps body returnType s ih =>
    have hbody : plains body = (bares body).map (mapTokens respell) := by
      rw [bares_eq_map, List.map_map]
      refine List.map_congr_left fun a ha => ih a ha fun n hn => h n ?_
      exact List.mem_cons_of_mem _ (mem_allNodes.2 ⟨a, ha, hn⟩)
    have hself : ∀ p ∈ ps, p.typeToken.Spelled := h _ List.mem_cons_self
    have hparams : ps.map (Param.mapToken Token.plain) =
        (ps.map Param.bare).map (Param.mapToken respell) := by
      rw [List.map_map]
      exact List.map_congr_left fun p hp => mapToken_eq (hself p hp)
    rw [plain_define, hbody, hparams, ← mapAllTokens_eq_map]
    rfl
  | ret inner s ih =>
    rw [plain_ret, ih fun n hn => h n (by simp [nodes, hn])]
    rfl
  | hole => rfl

lemma plains_eq {es : List Expr} (h : ∀ n ∈ allNodes es, n.Spelled) :
    plains es = (bares es).map (mapTokens respell) := by
  rw [bares_eq_map, List.map_map]
  exact List.map_congr_left fun e he => plain_eq fun n hn => h n (mem_allNodes.2 ⟨e, he, hn⟩)

lemma plains_of_bares {es fs : List Expr} (hes : ∀ n ∈ allNodes es, n.Spelled)
    (hfs : ∀ n ∈ allNodes fs, n.Spelled) (h : bares fs = bares es) : plains fs = plains es := by
  rw [plains_eq hes, plains_eq hfs, h]

end Expr

namespace Grammar

lemma Params.spelled {n : Nat} {ts : List Token} {ps : List Param} (h : Params n ts ps)
    (hts : ∀ t ∈ ts, Lexed t) : ∀ p ∈ ps, p.typeToken.Spelled := by
  induction h with
  | @last n type name =>
    have htype := (hts type (by simp)).spelled
    exact List.forall_mem_singleton.2 htype
  | @more n type name comma ts ps _ _ _ _ ih =>
    have htype := (hts type (by simp)).spelled
    exact List.forall_mem_cons.2 ⟨htype, ih fun t ht => hts t (by simp [ht])⟩

lemma Head.spelled {ts : List Token} {head : Header} (h : Head ts head)
    (hts : ∀ t ∈ ts, Lexed t) : ∀ p ∈ head.params, p.typeToken.Spelled := by
  obtain ⟨-, -, hp, -, -, -⟩ := h
  cases hp with
  | none => exact List.forall_mem_nil _
  | some hp => exact hp.spelled fun t ht => hts t (by simp [ht])

/-- The tokens in the trees of texts carry their texts. -/
lemma Derives.spelled {p : Phrase} {ts : List Token} (h : Derives p ts)
    (hts : ∀ t ∈ ts, Lexed t) : ∀ n ∈ p.nodes, n.Spelled := by
  intro n hn
  obtain ⟨vs, hvs, hd⟩ := h.holds n hn
  have hlexed : ∀ t ∈ vs, Lexed t := fun t ht => hts t (hvs.mem ht)
  cases hd with
  | ret | assign | callEmpty | call => trivial
  | @chain _ _ _ _ c => cases c <;> trivial
  | @operand t => exact (hlexed t (by simp)).spelled
  | @stray t ht => exact (hlexed t (by simp)).spelled_asError ht
  | define _ hh => exact hh.spelled fun t ht => hlexed t (by simp [ht])

end Grammar

namespace Source

lemma spelled_of_statements {source : Source} {es : List Expr}
    (h : source.statements.2 = .ok es) : ∀ n ∈ Expr.allNodes es, n.Spelled := by
  obtain ⟨ts, -, -, -, hts, hd⟩ := derives_of_statements h
  exact hd.spelled hts

/-- Texts that say the same have the same trees, but for places and the spellings of literals. -/
lemma plains_of_allSame {source source' : Source} {es fs : List Expr}
    (h : source.statements.2 = .ok es) (h' : source'.statements.2 = .ok fs)
    (hsame : Expr.allSame es fs = true) : Expr.plains fs = Expr.plains es :=
  Expr.plains_of_bares (spelled_of_statements h) (spelled_of_statements h')
    ((Expr.allSame_iff es fs).1 hsame).symm

end Source

/-! ## Runs -/

/-- The machine without the places and spellings in its scope. -/
def Machine.plain (m : Machine 0) : Machine 0 := m.world.plain.on m.stack

namespace Program

open Eval

variable {c : Context}

/-- A statement without places and spellings comes to what the statement comes to, without them. -/
lemma eval_plain (hc : c.registry.Blind) (e : Expr) (m : Machine 0) :
    eval c 0 e.plain m.plain =
      (plainResult Value.plain (eval c 0 e m).1, (eval c 0 e m).2.plain) := by
  obtain ⟨v, w, h, heval⟩ | ⟨f, w, h, heval⟩ := eval_statement c e m
  · have hplain : Evaluates c 0 (.expr e.plain) m.plain.world (.normal v.plain) w.plain :=
      h.plain hc
    rw [heval]
    exact hplain.eval (fresh_atTop m.plain)
  · have hplain : Evaluates c 0 (.expr e.plain) m.plain.world (.abrupt (.failed f.plain)) w.plain :=
      h.plain hc
    rw [heval]
    exact hplain.eval (fresh_atTop m.plain)

/-- **A run does not look at places and spellings.** -/
theorem runStatements_plain (hc : c.registry.Blind) (i : Nat) (es : List Expr) (m : Machine 0) :
    runStatements c i (Expr.plains es) m.plain =
      (plainResult id (runStatements c i es m).1, (runStatements c i es m).2.plain) := by
  induction es generalizing i m with
  | nil => rfl
  | cons e es ih =>
    have heval := eval_plain hc e { m with log := m.log.push (.statementRun i e.text) }
    simp only [Expr.plains_cons, runStatements, bind_apply, note_apply, Expr.text_plain]
    rw [show ({ m.plain with log := m.plain.log.push (.statementRun i e.text) } : Machine 0) =
      Machine.plain { m with log := m.log.push (.statementRun i e.text) } from rfl, heval]
    rcases eval c 0 e { m with log := m.log.push (.statementRun i e.text) } with ⟨f | v, m₁⟩
    · rfl
    · exact ih (i + 1) m₁

/-- Statements that are equal but for places and spellings run alike, from machines that are. -/
lemma runStatements_congr (hc : c.registry.Blind) (i : Nat) {es fs : List Expr}
    (h : Expr.plains fs = Expr.plains es) {m m' : Machine 0} (hm : m'.plain = m.plain) :
    plainResult id (runStatements c i fs m').1 = plainResult id (runStatements c i es m).1 ∧
      (runStatements c i fs m').2.plain = (runStatements c i es m).2.plain := by
  have hfs := runStatements_plain hc i fs m'
  rw [h, hm, runStatements_plain hc i es m] at hfs
  obtain ⟨hresult, hmachine⟩ := Prod.mk.inj hfs
  exact ⟨hresult.symm, hmachine.symm⟩

end Program

/-! ## What can be seen of it -/

namespace Expr

lemma bare_plain (e : Expr) : e.plain.bare = e.bare := by
  induction e using Expr.induction with
  | leaf t s => rfl
  | assign target value s ihl ihr | binary op target value s ihl ihr => simp [bare, ihl, ihr]
  | call name args s ih =>
    have hargs : (plains args).map bare = args.map bare := by
      rw [plains, List.map_map]
      exact List.map_congr_left ih
    rw [plain_call, bare, bare, bares_eq_map, bares_eq_map, hargs]
  | define name ps body returnType s ih =>
    have hbody : (plains body).map bare = body.map bare := by
      rw [plains, List.map_map]
      exact List.map_congr_left ih
    have hparams : (ps.map (Param.mapToken Token.plain)).map Param.bare = ps.map Param.bare := by
      rw [List.map_map]
      exact List.map_congr_left fun p _ => rfl
    rw [plain_define, bare, bare, bares_eq_map, bares_eq_map, hbody, hparams]
  | ret inner s ih => simp [bare, ih]
  | hole => rfl

lemma bares_plains (es : List Expr) : bares (plains es) = bares es := by
  rw [bares_eq_map, bares_eq_map, plains, List.map_map]
  exact List.map_congr_left fun e _ => bare_plain e

lemma headings_plain (e : Expr) : e.plain.headings = e.headings := by
  induction e using Expr.induction with
  | leaf t s => rfl
  | assign target value s ihl ihr | binary op target value s ihl ihr => simp [headings, ihl, ihr]
  | call name args s ih =>
    rw [plain_call, headings, headings, allHeadings_eq_flatMap, allHeadings_eq_flatMap, plains,
      List.flatMap_map]
    exact List.flatMap_congr ih
  | define name ps body returnType s ih =>
    have hbody : allHeadings (plains body) = allHeadings body := by
      rw [allHeadings_eq_flatMap, allHeadings_eq_flatMap, plains, List.flatMap_map]
      exact List.flatMap_congr ih
    rw [plain_define, headings, headings, hbody, List.length_map]
  | ret inner s ih => simp [headings, ih]
  | hole => rfl

lemma allHeadings_plains (es : List Expr) : allHeadings (plains es) = allHeadings es := by
  rw [allHeadings_eq_flatMap, allHeadings_eq_flatMap, plains, List.flatMap_map]
  exact List.flatMap_congr fun e _ => headings_plain e

end Expr

lemma UserFunction.same_of_plain {f f' : UserFunction} (h : f'.plain = f.plain) :
    f.same f' = true := by
  obtain ⟨name, params, body, returnType⟩ := f
  obtain ⟨name', params', body', returnType'⟩ := f'
  obtain ⟨rfl, rfl, hbody, rfl⟩ := UserFunction.mk.inj h
  have hbares : Expr.bares body = Expr.bares body' := by
    rw [← Expr.bares_plains body, ← Expr.bares_plains body']
    exact congrArg Expr.bares hbody.symm
  simp [same, (Expr.allSame_iff body body').2 hbares]

lemma Value.same_of_plain {v v' : Value} (h : v'.plain = v.plain) : v.same v' = true := by
  rcases v with n | s | b | (⟨name, type⟩ | f) | _ <;>
    rcases v' with n' | s' | b' | (⟨name', type'⟩ | f') | _ <;>
      simp only [plain, reduceCtorEq, int.injEq, string.injEq, bool.injEq, fn.injEq,
        Function.builtin.injEq, Function.user.injEq] at h
  · simp [same, h]
  · simp [same, h]
  · simp [same, h]
  · simp [same, h]
  · exact UserFunction.same_of_plain h
  · rfl

/-- The scopes have one name, and bind the same names in the same order, to values that are the
same. -/
structure Scope.Same (s s' : Scope) : Prop where
  /-- What they are called. -/
  name : s'.name = s.name
  /-- What they bind. -/
  bindings : List.Forall₂ (fun b b' => b'.1 = b.1 ∧ b.2.same b'.2 = true) s.bindings s'.bindings

lemma Scope.same_of_plain {s s' : Scope} (h : s'.plain = s.plain) : s.Same s' := by
  have hname : s'.plain.name = s.plain.name := by rw [h]
  refine ⟨hname, ?_⟩
  have hbindings : s'.bindings.map (fun b => (b.1, b.2.plain)) =
      s.bindings.map fun b => (b.1, b.2.plain) := congrArg Scope.bindings h
  revert hbindings
  generalize s.bindings = bs
  generalize s'.bindings = bs'
  intro hbindings
  induction bs generalizing bs' with
  | nil =>
    obtain rfl := List.map_eq_nil_iff.1 hbindings
    exact .nil
  | cons b bs ih =>
    obtain ⟨b', bs', rfl, hb, hbs⟩ := List.map_eq_cons_iff.1 hbindings
    obtain ⟨hname, hvalue⟩ := Prod.mk.inj hb
    exact .cons ⟨hname, Value.same_of_plain hvalue⟩ (ih bs' hbs)

/-- What can be seen of machines that are equal but for places and spellings. -/
lemma Machine.seen_of_plain {m m' : Machine 0} (h : m'.plain = m.plain) :
    m'.output = m.output ∧ m'.log = m.log ∧ m.scope.Same m'.scope := by
  have houtput : m'.plain.output = m.plain.output := by rw [h]
  have hlog : m'.plain.log = m.plain.log := by rw [h]
  have hscope : m'.plain.scope = m.plain.scope := by rw [h]
  exact ⟨houtput, hlog, Scope.same_of_plain hscope⟩

/-! ## Programs -/

namespace Program

open Eval

/-- The notes of reading a program. -/
def readingNotes (es : List Expr) : List Note :=
  (Expr.allHeadings es).map .definitionRead ++ [.programRead es.length]

lemma statements_eq {source : Source} {es : List Expr} (h : source.statements.2 = .ok es) :
    source.statements = (readingNotes es, .ok es) := by
  unfold Source.statements at h ⊢
  cases htokens : source.tokens with
  | error failure =>
    rw [htokens] at h
    cases h
  | ok ts =>
    rw [htokens] at h
    dsimp only at h ⊢
    cases hread : readProgram ts with
    | error stop =>
      rw [hread] at h
      cases h
    | ok fs =>
      rw [hread] at h
      cases h
      rfl

lemma readingNotes_congr {es fs : List Expr} (h : Expr.plains fs = Expr.plains es) :
    readingNotes fs = readingNotes es := by
  have hheadings : Expr.allHeadings fs = Expr.allHeadings es := by
    rw [← Expr.allHeadings_plains, h, Expr.allHeadings_plains]
  have hlength : fs.length = es.length := by simpa [Expr.plains] using congrArg List.length h
  rw [readingNotes, readingNotes, hheadings, hlength]

lemma run_eq {c : Context} {source : Source} {es : List Expr} (h : source.statements.2 = .ok es) :
    run c source = execute c source (readingNotes es) es := by
  unfold run
  rw [statements_eq h]

/-- The run ended as the other one did, but for the place that an error points at. -/
structure Outcome.Twin (o o' : Outcome) : Prop where
  /-- The failures, if there are any, have one cause. -/
  failure : o'.failure.map Failure.plain = o.failure.map Failure.plain
  /-- What was printed. -/
  output : o'.output = o.output
  /-- What was noted. -/
  log : o'.log = o.log
  /-- The scopes that were left. -/
  scope : ∃ m m', o.machine = some m ∧ o'.machine = some m' ∧ m.scope.Same m'.scope

lemma failureNotes_congr {f f' : Failure} (h : f'.plain = f.plain) :
    failureNotes f' = failureNotes f := by
  cases f <;> cases f' <;> simp_all [Failure.plain, failureNotes, LangError.message]

lemma plain_attach (f : Failure) (text : String) : (f.attach text).plain = f.plain := by
  cases f <;> rfl

/-- Runs that end alike are reported alike. -/
lemma twin_of_plain {c : Context} {source source' : Source} {notes : List Note}
    {es fs : List Expr}
    (hresult : plainResult id (runStatements c 0 fs (start c.registry notes)).1 =
      plainResult id (runStatements c 0 es (start c.registry notes)).1)
    (hmachine : (runStatements c 0 fs (start c.registry notes)).2.plain =
      (runStatements c 0 es (start c.registry notes)).2.plain) :
    (execute c source notes es).Twin (execute c source' notes fs) := by
  unfold execute
  revert hresult hmachine
  rcases runStatements c 0 es (start c.registry notes) with ⟨f | ⟨⟩, m⟩ <;>
    rcases runStatements c 0 fs (start c.registry notes) with ⟨f' | ⟨⟩, m'⟩ <;>
      intro hresult hmachine
  · have hf : f'.plain = f.plain := Except.error.inj hresult
    obtain ⟨houtput, hlog, hscope⟩ := Machine.seen_of_plain hmachine
    refine ⟨?_, houtput, ?_, m, m', rfl, rfl, hscope⟩
    · show some (f'.attach source'.text).plain = some (f.attach source.text).plain
      rw [plain_attach, plain_attach, hf]
    · show m'.log ++ failureNotes f' = m.log ++ failureNotes f
      rw [failureNotes_congr hf, hlog]
  · cases hresult
  · cases hresult
  · obtain ⟨houtput, hlog, hscope⟩ := Machine.seen_of_plain hmachine
    exact ⟨rfl, houtput, hlog, m, m', rfl, rfl, hscope⟩

/-- **Places and spellings do not matter.**  Texts that say the same run to the same end, whatever
the settings are: what they print, what they note and what they bind is the same, and if they fail,
then for the same cause. -/
theorem run_twin {source source' : Source} {es fs : List Expr}
    (h : source.statements.2 = .ok es) (h' : source'.statements.2 = .ok fs)
    (hsame : Expr.allSame es fs = true) (settings : Settings) :
    (run ⟨settings, .standard⟩ source).Twin (run ⟨settings, .standard⟩ source') := by
  have hplains := Source.plains_of_allSame h h' hsame
  rw [run_eq h, run_eq h', readingNotes_congr hplains]
  obtain ⟨hresult, hmachine⟩ := runStatements_congr (c := ⟨settings, .standard⟩)
    Registry.standard_blind 0 hplains (m := start .standard (readingNotes es)) rfl
  exact twin_of_plain hresult hmachine

/-- A text with an error leaf. -/
def strayText : Source := ⟨"f := 'a'; print(f); *;", none⟩

/-- The same program, in another layout and with another way to write the string. -/
def strayTextRelaid : Source := ⟨"f:=\"a\" ;\n\n  print( f ) ; /* here */\n *\n;", some "b"⟩

/-- Both runs print the string and fail at the error leaf. -/
theorem run_twin_stray :
    ∃ es fs, strayText.statements.2 = .ok es ∧ strayTextRelaid.statements.2 = .ok fs ∧
      Expr.allSame es fs = true ∧
      (run ⟨{}, .standard⟩ strayText).Twin (run ⟨{}, .standard⟩ strayTextRelaid) ∧
      ∀ source ∈ [strayText, strayTextRelaid], (run ⟨{}, .standard⟩ source).output = "a\n" ∧
        (run ⟨{}, .standard⟩ source).failure.map Failure.plain =
          some (.located (.invalidExpression "*") none) := by
  have hread : (match strayText.statements.2, strayTextRelaid.statements.2 with
      | .ok es, .ok fs => Expr.allSame es fs
      | _, _ => false) = true := by decide +kernel
  cases h : strayText.statements.2 with
  | error failure =>
    rw [h] at hread
    cases hread
  | ok es =>
    cases h' : strayTextRelaid.statements.2 with
    | error failure =>
      rw [h, h'] at hread
      cases hread
    | ok fs =>
      rw [h, h'] at hread
      exact ⟨es, fs, rfl, rfl, hread, run_twin h h' hread {}, by decide +kernel⟩

end Program

end Scriptlet
