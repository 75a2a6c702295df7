import Scriptlet.Diagnostic
import Scriptlet.Proofs.Diagnostics.Marks
import Scriptlet.Proofs.Safety.Run

/-!
# What is reported of an error

An error of a run points at a stretch of the text, unless a built-in function raised it: a scanner,
a reader or a node gave it the place (`Program.points_of_run`).  So the line that is shown of it is
the line around the start of that stretch, and the stretch is what is underlined in it, in the text
that an error is rendered as (`Program.run_reports`).
-/

namespace Scriptlet

open Text

/-! ## What is underlined -/

/-- In a line, columns are counted as characters are. -/
lemma Position.advance_of_not_mem {cs : List Char} (h : '\n' ∉ cs) (p : Position) :
    p.advance cs = ⟨p.line, p.column + cs.length, p.offset + cs.length⟩ := by
  induction cs generalizing p with
  | nil => rfl
  | cons c cs ih =>
    obtain ⟨hc, hcs⟩ := not_or.1 (List.mem_cons.not.1 h)
    rw [advance_cons, ih hcs, next, if_neg (Ne.symm hc), List.length_cons]
    simp only [Position.mk.injEq, true_and]
    omega

/-- How many characters of the first line of a span are underlined: all that the span covers if it
stays in that line, and all behind its start otherwise, but one at least. -/
def Span.carets (span : Span) (text line : String) : Nat :=
  if '\n' ∈ text.toList.extract span.start.offset span.stop.offset then
    max 1 (line.length - (span.start.column - 1))
  else max 1 (span.stop.offset - span.start.offset)

lemma Diagnostic.underlineLength_eq {span : Span} {text : String} {before inside : List Char}
    (hstart : span.start = .behind before) (hstop : span.stop = .behind (before ++ inside))
    (hinside : text.toList.extract span.start.offset span.stop.offset = inside) (line : String) :
    underlineLength span line = span.carets text line := by
  rw [underlineLength, Span.carets, hinside, hstop, hstart]
  by_cases h : '\n' ∈ inside
  · have hcount : 0 < inside.count '\n' := List.count_pos_iff.2 h
    have hlines : (Position.behind before).line ≠ (Position.behind (before ++ inside)).line := by
      simp only [Position.behind, List.count_append]
      omega
    rw [if_neg hlines, if_pos h]
    simp only [Position.behind]
    omega
  · -- the stretch is in one line, where columns are as far apart as offsets
    rw [← Position.advance_behind, Position.advance_of_not_mem h, if_pos rfl, if_neg h]
    simp only [Nat.add_sub_cancel_left]

/-- A text that fits into its field fills it. -/
lemma Diagnostic.length_flushRight (width : Nat) (s : String) :
    (flushRight width s).length = max width s.length := by
  rw [flushRight, String.length_append, String.length_ofList, List.length_replicate]
  omega

/-- The bar in front of a line stands above the one in front of what underlines it, as long as the
number of the line has three digits at most. -/
lemma Diagnostic.length_numbered_eq_iff (n : Nat) :
    (flushRight 3 (toString n) ++ " | ").length = "    | ".length ↔ n < 1000 := by
  have hdigits : (toString n).length ≤ 3 ↔ n < 1000 := by
    have hlength : (toString n).length = (Nat.toDigits 10 n).length := String.length_ofList
    rw [hlength]
    exact Nat.length_toDigits_le_iff (by decide) (by decide)
  have hbars : " | ".length = 3 ∧ "    | ".length = 6 := by decide
  rw [String.length_append, length_flushRight, hbars.1, hbars.2, ← hdigits]
  omega

/-- What is reported of an error that points at the span. -/
structure LangError.Shows (e : LangError) (text : String) (span : Span) : Prop where
  /-- The span does not end before it starts. -/
  ordered : span.start.offset ≤ span.stop.offset
  /-- It ends in the text. -/
  bounded : span.stop.offset ≤ text.length
  /-- A line is shown, but for the end of a text that is empty or ends with a line feed. -/
  hidden : e.place.line = none ↔ span.start.offset = text.length ∧ AtLineStart text.toList
  /-- It is the line around the start of the span, and the column of that counts what the line holds
  before it. -/
  line : ∀ line, e.place.line = some line → ∃ head stop tail,
    Around text.toList span.start.offset head line.toList stop tail ∧
      line.toList.take (span.start.column - 1) = text.toList.extract head.length span.start.offset
  /-- If a line is shown, then behind its number, and beneath it stands what underlines it.  Behind
  the bars of both, the carets start in the column of the span. -/
  render : ∀ line, e.place.line = some line → e.render = "\n".intercalate
    ([span.startText ++ ": " ++ ("error[" ++ e.code ++ "]: " ++ e.message),
      "  |",
      Diagnostic.flushRight 3 (toString span.start.line) ++ " | " ++ line,
      "    | " ++ String.ofList (List.replicate (span.start.column - 1) ' ' ++
        List.replicate (span.carets text line) '^')] ++
      e.cause.hints.map ("    = hint: " ++ ·))
  /-- If no line is shown, then nothing is underlined. -/
  bare : e.place.line = none → e.render = "\n".intercalate
    ([span.startText ++ ": " ++ ("error[" ++ e.code ++ "]: " ++ e.message)] ++
      e.cause.hints.map ("    = hint: " ++ ·))
  /-- The bars stand in the same column, and so the first caret beneath the start of the span, in
  the first 999 lines, where numbers of lines fit into their field. -/
  aligned : (Diagnostic.flushRight 3 (toString span.start.line) ++ " | ").length =
    "    | ".length ↔ span.start.line < 1000

/-- Once the text is known, an error that points at it has a span and the line of that. -/
lemma LangError.Points.place {e : LangError} {text : String} (h : e.Points text) :
    ∃ span, span.Marks text.toList ∧
      (e.attach text).place = ⟨some span, lineAt? text span.start.line⟩ := by
  obtain ⟨cause, span, hmarks, rfl | rfl⟩ := h
  · exact ⟨span, hmarks, rfl⟩
  · refine ⟨span, hmarks, ?_⟩
    simp only [attach, located, Place.attach]
    cases hline : lineAt? text span.start.line <;> simp [hline]

lemma LangError.attach_of_span_eq_none {e : LangError} (h : e.span = none) (text : String) :
    e.attach text = e := by
  obtain ⟨cause, span, line⟩ := e
  obtain rfl : span = none := h
  rfl

/-- The text of an error that shows a line. -/
lemma LangError.render_of_place {e : LangError} {span : Span} {line : String}
    (h : e.place = ⟨some span, some line⟩) : e.render = "\n".intercalate
      ([span.startText ++ ": " ++ ("error[" ++ e.code ++ "]: " ++ e.message),
        "  |",
        Diagnostic.flushRight 3 (toString span.start.line) ++ " | " ++ line,
        Diagnostic.underline span line] ++
        e.cause.hints.map ("    = hint: " ++ ·)) := by
  obtain ⟨cause, place⟩ := e
  obtain rfl : place = ⟨some span, some line⟩ := h
  rfl

/-- The text of an error that shows none. -/
lemma LangError.render_of_place_none {e : LangError} {span : Span}
    (h : e.place = ⟨some span, none⟩) : e.render = "\n".intercalate
      ([span.startText ++ ": " ++ ("error[" ++ e.code ++ "]: " ++ e.message)] ++
        e.cause.hints.map ("    = hint: " ++ ·)) := by
  obtain ⟨cause, place⟩ := e
  obtain rfl : place = ⟨some span, none⟩ := h
  rfl

/-- An error that shows the line of its span reports what it should. -/
lemma LangError.shows_of_marks {e : LangError} {text : String} {span : Span}
    (htext : PlainBreaks text.toList) (h : span.Marks text.toList)
    (hplace : e.place = ⟨some span, lineAt? text span.start.line⟩) : e.Shows text span := by
  obtain ⟨before, inside, after, hsplit, hstart, hstop, hcrlf⟩ := h
  obtain ⟨post, stop, tail, haround, hnone, hsome⟩ := lineAt?_around hsplit htext hcrlf
  rw [← hstart] at hnone hsome
  have hline : e.place.line = lineAt? text span.start.line := by rw [hplace]
  have hoffset : span.start.offset = before.length := by rw [hstart, Position.offset_behind]
  have hend : span.stop.offset = (before ++ inside).length := by
    rw [hstop, Position.offset_behind]
  have hlength : text.length = before.length + (inside ++ after).length := by
    rw [← String.length_toList, hsplit, List.length_append]
  have hcolumn : span.start.column - 1 = (current before).length := by
    rw [hstart]
    exact Nat.add_sub_cancel_left 1 _
  constructor
  case ordered =>
    rw [hoffset, hend, List.length_append]
    omega
  case bounded =>
    rw [hend, hlength, List.length_append, List.length_append]
    omega
  case hidden =>
    rw [hline, hnone, hoffset, hlength]
    constructor
    · rintro ⟨hnil, hstarts⟩
      rw [hnil, List.append_nil] at hsplit
      rw [hnil, hsplit]
      exact ⟨rfl, hstarts⟩
    · rintro ⟨hnil, hstarts⟩
      have hempty : inside ++ after = [] := List.length_eq_zero_iff.1 (by omega)
      rw [hempty, List.append_nil] at hsplit
      exact ⟨hempty, hsplit ▸ hstarts⟩
  case line =>
    intro line hshown
    have hchars := hsome line (hline.symm.trans hshown)
    refine ⟨ended before, stop, tail, ?_, ?_⟩
    · rw [hoffset, hchars]
      exact haround
    · rw [hchars, hcolumn, List.take_left, hoffset, hsplit]
      have hextract := Token.extract_append (ended before) (current before) (inside ++ after)
      rw [ended_append_current] at hextract
      exact hextract.symm
  case render =>
    intro line hshown
    have hstretch : text.toList.extract span.start.offset span.stop.offset = inside := by
      rw [hoffset, hend, hsplit, ← List.append_assoc]
      exact Token.extract_append before inside after
    have hplace' : e.place = ⟨some span, some line⟩ := by
      rw [hplace, ← hline, hshown]
    rw [LangError.render_of_place hplace', Diagnostic.underline,
      Diagnostic.underlineLength_eq hstart hstop hstretch]
  case bare =>
    intro hnone
    exact LangError.render_of_place_none (by rw [hplace, ← hline, hnone])
  case aligned => exact Diagnostic.length_numbered_eq_iff span.start.line

/-! ## Errors of evaluation -/

/-- Where arguments cannot be bound, the call is to blame. -/
lemma bindArguments_located {settings : Settings} {function : String} {vs : List Value}
    {span : Option Span} {ps : List TypedParam} {s : Scope} {e : LangError}
    (h : bindArguments settings function vs span ps s = .error (.language e)) :
    ∃ cause, e = .located cause span := by
  induction ps generalizing s with
  | nil => cases h
  | cons p ps ih =>
    rw [bindArguments] at h
    split at h
    · cases h
    · split at h
      · exact ih h
      · cases h
        exact ⟨_, rfl⟩

lemma depthFailure_located {limit : Int} {span : Option Span} {e : LangError}
    (h : depthFailure limit span = .language e) : ∃ cause, e = .located cause span := by
  unfold depthFailure at h
  split at h
  · cases h
    exact ⟨_, rfl⟩
  · cases h

namespace Program

open Eval

variable {settings : Settings} {source : Source} {es : List Expr} {e : LangError}

/-- The run comes by a call of a built-in function that fails so. -/
def BuiltinFails (c : Context) (source : Source) (e : LangError) : Prop :=
  ∃ d name vs s w builtinName promised, Visits c source ⟨d, .apply name vs s, w⟩ ∧
    w.scope.get? name = some (.fn (.builtin builtinName promised)) ∧
    (answer c.registry builtinName vs promised w).1 = .error (.language e)

/-- If the phrase is a call whose arguments have values, then it knows the span of its node. -/
def HasNode (es : List Expr) : {α : Type} → Eval.Phrase α → Prop
  | _, .apply name _ s => ∃ args, .call name args s ∈ Expr.allNodes es
  | _, _ => True

/-- A run comes by calls only from their nodes. -/
lemma hasNode_of_visits {k : Config} (hes : source.statements.2 = .ok es)
    (h : Visits ⟨settings, .standard⟩ source k) : HasNode es k.phrase := by
  obtain ⟨fs, e, w₀, hfs, hcomes, hvisits⟩ := h
  obtain rfl | ⟨k', hk', henter⟩ := Relation.ReflTransGen.cases_tail hvisits
  · trivial
  · have hconfig := hasConfig_of_visits hes ⟨fs, e, w₀, hfs, hcomes, hk'⟩
    cases henter with
    | @callee _ _ _ _ args => exact ⟨args, Domain.HasTree.node hconfig.1⟩
    | _ => trivial

/-- **An error of evaluation is located at a node of the program**, unless a built-in function
raised it. -/
lemma located_of_raises {k : Config} (hes : source.statements.2 = .ok es)
    (hk : Visits ⟨settings, .standard⟩ source k)
    (h : Raises ⟨settings, .standard⟩ k (.language e)) :
    (∃ n ∈ Expr.allNodes es, ∃ cause, e = .located cause n.span) ∨
      BuiltinFails ⟨settings, .standard⟩ source e := by
  have hregular := regular_of_statements hes
  have hnode := (hasConfig_of_visits hes hk).1
  generalize hf : Failure.language e = f at h
  cases h with
  | unbound | rejected | assignNothing | operator | outside =>
    cases hf
    exact .inl ⟨_, Domain.HasTree.node hnode, _, rfl⟩
  | define h =>
    obtain ⟨params, type, hsignature, -⟩ := hregular _ (Domain.HasTree.node hnode)
    cases h.symm.trans hsignature
  | hole => exact absurd (hregular _ (Domain.HasTree.node hnode)) id
  | undefined | notCallable | wrongArity =>
    obtain ⟨args, hcall⟩ := hasNode_of_visits hes hk
    cases hf
    exact .inl ⟨_, hcall, _, rfl⟩
  | builtin h ha => exact .inr ⟨_, _, _, _, _, _, _, hk, h, hf ▸ ha⟩
  | tooDeep =>
    obtain ⟨args, hcall⟩ := hasNode_of_visits hes hk
    obtain ⟨cause, rfl⟩ := depthFailure_located hf.symm
    exact .inl ⟨_, hcall, cause, rfl⟩
  | unbindable _ _ _ hs =>
    obtain ⟨args, hcall⟩ := hasNode_of_visits hes hk
    obtain ⟨cause, rfl⟩ := bindArguments_located (hf ▸ hs)
    exact .inl ⟨_, hcall, cause, rfl⟩
  | result _ _ _ _ _ _ hr =>
    obtain ⟨args, hcall⟩ := hasNode_of_visits hes hk
    obtain ⟨cause, hlocated, -⟩ := checkResult_eq_error hr
    cases hf.trans hlocated
    exact .inl ⟨_, hcall, cause, rfl⟩

/-- The built-in functions of the language know no places. -/
lemma BuiltinFails.span (h : BuiltinFails ⟨settings, .standard⟩ source e) : e.span = none := by
  obtain ⟨d, name, vs, s, w, builtinName, promised, hk, hname, ha⟩ := h
  simp only [answer] at ha
  cases hb : Registry.standard.find? builtinName with
  | none =>
    rw [hb] at ha
    cases ha
    rfl
  | some b =>
    rw [hb] at ha
    dsimp only at ha
    cases hrejection : b.rejection? vs with
    | some cause =>
      rw [hrejection] at ha
      cases ha
      rfl
    | none =>
      rw [hrejection] at ha
      dsimp only at ha
      split at ha
      · rename_i f hrun
        cases ha
        obtain ⟨cause, hlocated, -⟩ | ⟨reason, hlong, -⟩ :=
          Registry.failsFor_standard hb hrejection hrun
        · cases hlocated
          rfl
        · cases hlong
      · split at ha
        · cases ha
        · cases ha
          rfl

/-- Before its line is looked up, an error of a run points at the text, or a built-in function
raised it. -/
theorem points_of_run (h : (run ⟨settings, .standard⟩ source).failure = some (.language e)) :
    ∃ e₀, e = e₀.attach source.text ∧
      (e₀.Points source.text ∨ BuiltinFails ⟨settings, .standard⟩ source e₀) := by
  obtain ⟨g, hg, hcases⟩ := failure_run h
  cases g with
  | tooLong | missingArgument => cases hg
  | language e₀ =>
    refine ⟨e₀, Failure.language.inj hg, ?_⟩
    obtain hread | ⟨es, hes, hrun⟩ := hcases
    · exact .inl (Source.points_of_statements hread)
    · obtain ⟨n, w, hcomes, hfails⟩ := comes_of_runStatements hrun
      obtain ⟨k, hvisits, hraises⟩ := fails_iff.1 hfails
      have hk : Visits ⟨settings, .standard⟩ source k := ⟨es, n, w, hes, hcomes, hvisits⟩
      obtain ⟨n, hn, cause, rfl⟩ | hbuiltin := located_of_raises hes hk hraises
      · obtain ⟨span, hspan, hmarks⟩ := Source.marks_node hes hn
        rw [hspan]
        exact .inl ⟨cause, span, hmarks, .inl rfl⟩
      · exact .inr hbuiltin

/-- **Diagnostics point at the right text.**  Where the only line breaks of a text are line feeds,
perhaps behind carriage returns, each error of a run has a span, unless a built-in function raised
it; and what is reported of an error with a span is the line around its start, with the text of the
span underlined.  Both lines have a bar in front, and behind these the carets start in the column in
which the span starts; the bars themselves are in the same column in the first 999 lines only. -/
theorem run_reports (settings : Settings) {source : Source} (htext : PlainBreaks source.text.toList)
    {e : LangError} (h : (run ⟨settings, .standard⟩ source).failure = some (.language e)) :
    (e.span = none → BuiltinFails ⟨settings, .standard⟩ source e) ∧
      ∀ span, e.span = some span → e.Shows source.text span := by
  obtain ⟨e₀, rfl, hpoints | hbuiltin⟩ := points_of_run h
  · obtain ⟨span, hmarks, hplace⟩ := hpoints.place
    have hspan : (e₀.attach source.text).span = some span := congrArg Place.span hplace
    refine ⟨fun hnone => ?_, fun span' hspan' => ?_⟩
    · cases hspan.symm.trans hnone
    · obtain rfl : span = span' := Option.some.inj (hspan.symm.trans hspan')
      exact LangError.shows_of_marks htext hmarks hplace
  · rw [LangError.attach_of_span_eq_none hbuiltin.span]
    refine ⟨fun _ => hbuiltin, fun span hsome => ?_⟩
    cases hbuiltin.span.symm.trans hsome

/-- A text with carriage returns, whose second statement goes over two lines and fails. -/
def broken : Source := ⟨"x := 1;\r\n  x +\r\n 'a';", none⟩

/-- Its error, which shows the first one of the two lines. -/
def brokenError : LangError :=
  ⟨.typeMismatch "'+'" "two ints or two strings" [.int, .string],
    ⟨some ⟨⟨2, 3, 11⟩, ⟨3, 5, 20⟩, none⟩, some "  x +"⟩⟩

/-- The line is underlined from the first operand on, as far as it goes. -/
theorem run_reports_broken :
    PlainBreaks broken.text.toList ∧
      (run ⟨{}, .standard⟩ broken).failure = some (.language brokenError) ∧
      brokenError.Shows broken.text ⟨⟨2, 3, 11⟩, ⟨3, 5, 20⟩, none⟩ ∧
      brokenError.render = "2:3: error[E404]: incompatible types for '+': expected two ints " ++
        "or two strings, found (int, string)\n  |\n  2 |   x +\n    |   ^^^" := by
  have hbreaks : PlainBreaks broken.text.toList := by decide +kernel
  have hrun : (run ⟨{}, .standard⟩ broken).failure = some (.language brokenError) := by
    decide +kernel
  have hshows := (run_reports {} hbreaks hrun).2 _ rfl
  refine ⟨hbreaks, hrun, hshows, ?_⟩
  rw [hshows.render "  x +" rfl]
  decide +kernel

end Program

end Scriptlet
