import Scriptlet.Builtin.Standard
import Scriptlet.Proofs.Evaluation.Agreement
import Scriptlet.Proofs.Evaluation.Erasure
import Scriptlet.Proofs.Safety.Domain

/-!
# Evaluation does not look at places and spellings

Evaluating a tree without its places and spellings comes to what evaluating the tree comes to,
without the places and spellings in that (`Evaluates.plain`), as long as the built-in functions do
not look at them either (`Registry.Blind`).
-/

namespace Scriptlet

/-- The reply without the places and spellings in its value. -/
def Reply.plain (r : Reply) : Reply := { r with result := Eval.plainResult Value.plain r.result }

/-- The functions do not look at places and spellings. -/
def Registry.Blind (r : Registry) : Prop :=
  ∀ b ∈ r.builtins, ∀ vs : List Value, b.run (vs.map Value.plain) = (b.run vs).plain

lemma Builtin.rejection?_plain (b : Builtin) (vs : List Value) :
    b.rejection? (vs.map Value.plain) = b.rejection? vs := by
  have htypes : (vs.map Value.plain).map Value.type = vs.map Value.type := by simp
  have haccepts (x : Option ValueType × Value) : accepts x.1 x.2.plain = accepts x.1 x.2 := by
    obtain ⟨_ | type, v⟩ := x <;> simp [accepts]
  unfold rejection?
  rw [htypes, List.length_map, List.zip_map_right, List.all_map]
  simp only [Function.comp_def, Prod.map_fst, Prod.map_snd, id, haccepts]

/-! ## The built-in functions of the language -/

namespace Builtin

lemma mapM_display_plain (vs : List Value) :
    (vs.map Value.plain).mapM Value.display = vs.mapM Value.display := by
  induction vs with
  | nil => rfl
  | cons v vs ih => rw [List.map_cons, List.mapM_cons, List.mapM_cons, Value.display_plain, ih]

lemma replyText_plain (text : Except Numeral.TooLong String) :
    (replyText text).plain = replyText text := by
  cases text <;> rfl

lemma replyInt_plain (raw : String) (read : Except Numeral.Unreadable Int) :
    (replyInt raw read).plain = replyInt raw read := by
  rcases read with (_ | _) | _ <;> rfl

lemma run_print_plain (vs : List Value) :
    print.run (vs.map Value.plain) = (print.run vs).plain := by
  unfold print
  dsimp only
  rw [mapM_display_plain]
  cases vs.mapM Value.display <;> rfl

lemma unaccepted_of_length {b : Builtin} (hb : b ∈ [toText, parseInt, length, typeOf, assert])
    {vs : List Value} (hvs : vs.length ≠ 1) : b.run vs = unaccepted := by
  simp only [List.mem_cons, List.not_mem_nil, or_false] at hb
  rcases vs with _ | ⟨v, _ | ⟨u, vs⟩⟩
  · rcases hb with rfl | rfl | rfl | rfl | rfl <;> rfl
  · exact absurd rfl hvs
  · rcases hb with rfl | rfl | rfl | rfl | rfl <;> rcases v with _ | _ | (_ | _) | _ | _ <;> rfl

lemma run_one_plain {b : Builtin} (hb : b ∈ [toText, parseInt, length, typeOf, assert])
    (v : Value) : b.run [v.plain] = (b.run [v]).plain := by
  simp only [List.mem_cons, List.not_mem_nil, or_false] at hb
  rcases hb with rfl | rfl | rfl | rfl | rfl
  · show replyText v.plain.display = (replyText v.display).plain
    rw [Value.display_plain, replyText_plain]
  · rcases v with _ | s | _ | (_ | _) | _
    case string => exact (replyInt_plain s _).symm
    all_goals rfl
  · rcases v with _ | _ | _ | (_ | _) | _ <;> rfl
  · rcases v with _ | _ | _ | (_ | _) | _ <;> rfl
  · rcases v with _ | _ | (_ | _) | (_ | _) | _ <;> rfl

end Builtin

/-- **None of the built-in functions of the language looks at places and spellings.** -/
theorem Registry.standard_blind : Registry.standard.Blind := by
  intro b hb vs
  rcases List.mem_cons.1 hb with rfl | hb
  · exact Builtin.run_print_plain vs
  · rcases vs with _ | ⟨v, _ | ⟨u, vs⟩⟩
    · rw [List.map_nil, Builtin.unaccepted_of_length hb (by simp)]
      rfl
    · exact Builtin.run_one_plain hb v
    · rw [Builtin.unaccepted_of_length hb (by simp), Builtin.unaccepted_of_length hb (by simp)]
      rfl

/-! ## Evaluation -/

/-- The world without the places and spellings in its scope. -/
def World.plain (w : World) : World := { w with scope := w.scope.plain }

namespace World

@[simp] lemma scope_plain (w : World) : w.plain.scope = w.scope.plain := rfl

lemma plain_bind (w : World) (x : String) (v : Value) :
    (w.bind x v).plain = w.plain.bind x v.plain := by
  simp [World.plain, bind, Scope.plain_set]

lemma plain_note (w : World) (n : Note) : (w.note n).plain = w.plain.note n := rfl

end World

namespace Eval

/-- The exit without the places and spellings in it. -/
def Exit.plain : Exit → Exit
  | returned v => returned v.plain
  | failed f => failed f.plain

/-- The ending without the places and spellings in it. -/
def Completion.plain {α : Type} (f : α → α) : Completion α → Completion α
  | normal a => normal (f a)
  | abrupt x => abrupt x.plain

lemma ofResult_plain {α : Type} (f : α → α) (x : Except Failure α) :
    (Completion.ofResult x).plain f = .ofResult (plainResult f x) := by
  cases x <;> rfl

namespace Phrase

/-- The phrase without the places and spellings in it. -/
def plain : {α : Type} → Phrase α → Phrase α
  | _, expr e => expr e.plain
  | _, args es => args (Expr.plains es)
  | _, apply name vs _ => apply name (vs.map Value.plain) none
  | _, body es => body (Expr.plains es)

/-- What the phrase gives, without the places and spellings in it. -/
def plainly : {α : Type} → Phrase α → α → α
  | _, expr _ => Value.plain
  | _, args _ => List.map Value.plain
  | _, apply .. => Value.plain
  | _, body _ => id

end Phrase

variable {c : Context} {d : Nat}

lemma find?_blind (hc : c.registry.Blind) {name : String} {b : Builtin}
    (h : c.registry.find? name = some b) (vs : List Value) :
    b.run (vs.map Value.plain) = (b.run vs).plain :=
  hc b (List.mem_of_find?_eq_some h) vs

lemma answer_plain (hc : c.registry.Blind) (name : String) (vs : List Value)
    (promised : ValueType) (w : World) :
    answer c.registry name (vs.map Value.plain) promised w.plain =
      (plainResult Value.plain (answer c.registry name vs promised w).1,
        (answer c.registry name vs promised w).2.plain) := by
  unfold answer
  cases hb : c.registry.find? name with
  | none => rfl
  | some b =>
    dsimp only
    rw [Builtin.rejection?_plain]
    cases b.rejection? vs with
    | some cause => rfl
    | none =>
      dsimp only
      rw [find?_blind hc hb, List.length_map]
      unfold Reply.plain
      cases (b.run vs).result with
      | error f => rfl
      | ok v =>
        simp only [plainResult_ok, Value.type_plain]
        split <;> rfl

lemma callValue_plain (o : Completion Unit) :
    (o.plain id).callValue = plainResult Value.plain o.callValue := by
  rcases o with ⟨⟩ | v | f <;> rfl

lemma checked_plain (settings : Settings) (f : UserFunction) (s : Option Span)
    (o : Completion Unit) :
    ((o.plain id).callValue.bind (checkResult settings f.plain none)) =
      plainResult Value.plain (o.callValue.bind (checkResult settings f s)) := by
  rw [callValue_plain]
  cases o.callValue with
  | error e => rfl
  | ok v => exact checkResult_plain settings f s v

lemma get?_plain_of_eq {w : World} {x : String} {v : Value} (h : w.scope.get? x = some v) :
    w.plain.scope.get? x = some v.plain := by
  rw [World.scope_plain, Scope.get?_plain, h]
  rfl

lemma get?_plain_of_none {w : World} {x : String} (h : w.scope.get? x = none) :
    w.plain.scope.get? x = none := by
  rw [World.scope_plain, Scope.get?_plain, h]
  rfl

lemma identifier?_plain_of_eq {e : Expr} {t : Token} (h : e.identifier? = some t) :
    e.plain.identifier? = some t.plain := by
  rw [Expr.identifier?_plain, h]
  rfl

/-- What an operator gives is plain. -/
lemma plainResult_apply (op : Operator) (l r : Value) (s : Option Span) :
    plainResult Value.plain ((op.apply l r).mapError fun cause => Failure.located cause s) =
      (op.apply l r).mapError fun cause => Failure.located cause none := by
  cases h : op.apply l r with
  | error cause => rfl
  | ok v => exact congrArg Except.ok (Value.plain_of_ne (Operator.apply_ne_fn h))

/-- **Evaluation does not look at places and spellings.** -/
theorem Evaluates.plain (hc : c.registry.Blind) {α : Type} {p : Phrase α} {w w' : World}
    {o : Completion α} (h : Evaluates c d p w o w') :
    Evaluates c d p.plain w.plain (o.plain p.plainly) w'.plain := by
  induction h with
  | literal h =>
    show Evaluates c _ (.expr (.leaf _ none)) _ (.normal _) _
    rw [Phrase.plainly, literal?_eq_plain h]
    exact .literal h
  | bound h hv => exact .bound h (get?_plain_of_eq hv)
  | unbound h hv => exact .unbound h (get?_plain_of_none hv)
  | passedOver h hv permitted => exact .passedOver h hv permitted
  | @rejected d w t s h hv permitted =>
    have hrejected := @Evaluates.rejected c d w.plain t.plain none h hv permitted
    rw [Token.lexeme_plain hv] at hrejected
    exact hrejected
  | @assignNothing d w target value s h =>
    have htarget : target.plain.identifier? = none := by
      rw [Expr.identifier?_plain, h]
      rfl
    have hfails := @Evaluates.assignNothing c d w.plain target.plain value.plain none htarget
    rw [Expr.text_plain] at hfails
    exact hfails
  | assign h _ ih =>
    have hassign := Evaluates.assign (s := none) (identifier?_plain_of_eq h) ih
    rw [World.plain_bind]
    exact hassign
  | assignExit h _ ih => exact .assignExit (identifier?_plain_of_eq h) ih
  | @binary d w w₁ w' op left right s l r _ _ ihl ihr =>
    rw [Phrase.plainly, ofResult_plain, plainResult_apply, ← apply_plain]
    exact .binary ihl ihr
  | binaryExitLeft _ ih => exact .binaryExitLeft ih
  | binaryExitRight _ _ ihl ihr => exact .binaryExitRight ihl ihr
  | call _ _ ihes iho =>
    rw [Phrase.plain, Expr.plain_call]
    exact .call ihes iho
  | callExit _ ih =>
    rw [Phrase.plain, Expr.plain_call]
    exact .callExit ih
  | @define d w name ps body returnType s params type h =>
    have hsignature := resolveSignature_plain ps returnType s
    rw [h] at hsignature
    have hdefine := @Evaluates.define c d w.plain name _ (Expr.plains body) _ _ _ _ hsignature
    rw [Phrase.plain, Expr.plain_define, World.plain_note, World.plain_bind]
    exact hdefine
  | @defineExit d w name ps body returnType s f h =>
    have hsignature := resolveSignature_plain ps returnType s
    rw [h] at hsignature
    rw [Phrase.plain, Expr.plain_define]
    exact .defineExit hsignature
  | retOutside => exact .retOutside
  | ret _ ih => exact .ret ih
  | retExit _ ih => exact .retExit ih
  | hole => exact .hole
  | argsEnd => exact .argsEnd
  | argsNext _ _ ihe ihes => exact .argsNext ihe ihes
  | argsExit _ ih => exact .argsExit ih
  | argsExitLater _ _ ihe ihes => exact .argsExitLater ihe ihes
  | undefined h => exact .undefined (get?_plain_of_none h)
  | @notCallable d w name vs s v h hv =>
    have hget := get?_plain_of_eq h
    rw [Value.plain_of_ne hv] at hget
    exact .notCallable hget hv
  | @builtin d w name builtinName vs s promised h =>
    have hbuiltin := @Evaluates.builtin c d w.plain name builtinName (vs.map Value.plain) none
      promised (get?_plain_of_eq h)
    rw [answer_plain hc, ← ofResult_plain] at hbuiltin
    exact hbuiltin
  | @tooDeep d w name vs s f h depth =>
    have hdeep := @Evaluates.tooDeep c d w.plain name (vs.map Value.plain) none f.plain
      (get?_plain_of_eq h) depth
    rw [← depthFailure_plain c.settings.maxCallDepth s] at hdeep
    exact hdeep
  | @wrongArity d w name vs s f h depth arity =>
    have harity : (vs.map Value.plain).length ≠ f.plain.params.length := by
      rwa [List.length_map]
    have hwrong := Evaluates.wrongArity (s := none) (get?_plain_of_eq h) depth harity
    rw [List.length_map] at hwrong
    exact hwrong
  | @unbindable d w name vs s f e h depth arity hs =>
    have harity : (vs.map Value.plain).length = f.plain.params.length := by
      rwa [List.length_map]
    have hscope := callScope_plain c f vs s w.scope
    rw [hs] at hscope
    exact .unbindable (get?_plain_of_eq h) depth harity hscope
  | @user d w w' name vs s f scope o h depth arity hs _ ih =>
    have harity : (vs.map Value.plain).length = f.plain.params.length := by
      rwa [List.length_map]
    have hscope := callScope_plain c f vs s w.scope
    rw [hs] at hscope
    have huser := Evaluates.user (get?_plain_of_eq h) depth harity hscope ih
    rw [Phrase.plainly, checked_plain c.settings f s, ← ofResult_plain] at huser
    exact huser
  | bodyEnd => exact .bodyEnd
  | bodyNext _ _ ihe ihes => exact .bodyNext ihe ihes
  | bodyExit _ ih => exact .bodyExit ih

end Eval

end Scriptlet
