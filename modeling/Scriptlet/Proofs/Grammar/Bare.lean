import Scriptlet.Expr.Same
import Scriptlet.Proofs.Grammar.Derivation

/-!
# Derivations do not look at places and texts

If tokens are replaced by others that say the same, they are still the same phrase, up to the places
and the texts in its tree (`Derives.congr`).
-/

namespace Scriptlet

lemma Token.bare_inj {t u : Token} (h : u.bare = t.bare) :
    u.kind = t.kind ∧ u.payload = t.payload := by
  simpa [Token.bare] using h

namespace Grammar

/-! ## Headers of definitions -/

lemma bare_ofTokens (n : Nat) {type name type' name' : Token} (ht : type'.bare = type.bare)
    (hn : name'.bare = name.bare) :
    (Param.ofTokens n type' name').bare = (Param.ofTokens n type name).bare := by
  simp [Param.ofTokens, Param.bare, ht, (Token.bare_inj hn).2]

lemma Params.congr {n : Nat} {ts us : List Token} {ps : List Param} (h : Params n ts ps)
    (hus : us.map Token.bare = ts.map Token.bare) :
    ∃ qs, Params n us qs ∧ qs.map Param.bare = ps.map Param.bare := by
  induction h generalizing us with
  | last ht hn =>
    obtain ⟨type, _, rfl, ht', hus⟩ := List.map_eq_cons_iff.1 hus
    obtain ⟨name, _, rfl, hn', hus⟩ := List.map_eq_cons_iff.1 hus
    obtain rfl := List.map_eq_nil_iff.1 hus
    refine ⟨_, .last ((Token.bare_inj ht').1.trans ht) ((Token.bare_inj hn').1.trans hn), ?_⟩
    simp [bare_ofTokens _ ht' hn']
  | more ht hn hc h ih =>
    obtain ⟨type, _, rfl, ht', hus⟩ := List.map_eq_cons_iff.1 hus
    obtain ⟨name, _, rfl, hn', hus⟩ := List.map_eq_cons_iff.1 hus
    obtain ⟨comma, us, rfl, hc', hus⟩ := List.map_eq_cons_iff.1 hus
    obtain ⟨qs, hqs, hbare⟩ := ih hus
    refine ⟨_, .more ((Token.bare_inj ht').1.trans ht) ((Token.bare_inj hn').1.trans hn)
      ((Token.bare_inj hc').1.trans hc) hqs, ?_⟩
    simp [bare_ofTokens _ ht' hn', hbare]

lemma ParamList.congr {ts us : List Token} {ps : List Param} (h : ParamList ts ps)
    (hus : us.map Token.bare = ts.map Token.bare) :
    ∃ qs, ParamList us qs ∧ qs.map Param.bare = ps.map Param.bare := by
  cases h with
  | none =>
    obtain rfl := List.map_eq_nil_iff.1 hus
    exact ⟨[], .none, rfl⟩
  | some h =>
    obtain ⟨qs, hqs, hbare⟩ := h.congr hus
    exact ⟨qs, .some hqs, hbare⟩

lemma ReturnClause.congr {ts us : List Token} {r : String} (h : ReturnClause ts r)
    (hus : us.map Token.bare = ts.map Token.bare) : ReturnClause us r := by
  cases h with
  | none =>
    obtain rfl := List.map_eq_nil_iff.1 hus
    exact .none
  | some ha ht =>
    obtain ⟨arrow, _, rfl, ha', hus⟩ := List.map_eq_cons_iff.1 hus
    obtain ⟨type, _, rfl, ht', hus⟩ := List.map_eq_cons_iff.1 hus
    obtain rfl := List.map_eq_nil_iff.1 hus
    rw [← (Token.bare_inj ht').2]
    exact .some ((Token.bare_inj ha').1.trans ha) ((Token.bare_inj ht').1.trans ht)

lemma Head.congr {ts us : List Token} {head : Header} (h : Head ts head)
    (hus : us.map Token.bare = ts.map Token.bare) :
    ∃ head', Head us head' ∧ head'.name = head.name ∧ head'.returnType = head.returnType ∧
      head'.params.map Param.bare = head.params.map Param.bare := by
  obtain ⟨hn, hl, hp, hr, hu, hb⟩ := h
  obtain ⟨name, _, rfl, hn', hus⟩ := List.map_eq_cons_iff.1 hus
  obtain ⟨left, _, rfl, hl', hus⟩ := List.map_eq_cons_iff.1 hus
  rw [List.map_append] at hus
  obtain ⟨vs, _, rfl, hvs, hus⟩ := List.map_eq_append_iff.1 hus
  obtain ⟨right, _, rfl, hr', hus⟩ := List.map_eq_cons_iff.1 hus
  rw [List.map_append] at hus
  obtain ⟨ws, _, rfl, hws, hus⟩ := List.map_eq_append_iff.1 hus
  obtain ⟨brace, _, rfl, hb', hus⟩ := List.map_eq_cons_iff.1 hus
  obtain rfl := List.map_eq_nil_iff.1 hus
  obtain ⟨qs, hqs, hbare⟩ := hp.congr hvs
  refine ⟨_, .mk ((Token.bare_inj hn').1.trans hn) ((Token.bare_inj hl').1.trans hl) hqs
    ((Token.bare_inj hr').1.trans hr) (hu.congr hws) ((Token.bare_inj hb').1.trans hb), ?_, rfl,
    hbare⟩
  rw [(Token.bare_inj hn').2]

/-! ## Phrases -/

/-- The tokens are a phrase that is the given one up to places and texts. -/
def Rederives : Phrase → List Token → Prop
  | .expr e, us => ∃ e', Derives (.expr e') us ∧ e'.bare = e.bare
  | .args es, us => ∃ es', Derives (.args es') us ∧ Expr.bares es' = Expr.bares es
  | .statement e, us => ∃ e', Derives (.statement e') us ∧ e'.bare = e.bare
  | .body es, us => ∃ es', Derives (.body es') us ∧ Expr.bares es' = Expr.bares es
  | .program es, us => ∃ es', Derives (.program es') us ∧ Expr.bares es' = Expr.bares es

lemma begins_congr {k : Token.Kind} {ts us : List Token}
    (h : us.map Token.bare = ts.map Token.bare) : Begins k us ↔ Begins k ts := by
  cases ts with
  | nil =>
    obtain rfl := List.map_eq_nil_iff.1 h
    rfl
  | cons t ts =>
    obtain ⟨u, us, rfl, hu, -⟩ := List.map_eq_cons_iff.1 h
    rw [begins_cons, begins_cons, (Token.bare_inj hu).1]

lemma isDefinition_bare (e : Expr) : e.bare.isDefinition = e.isDefinition := by
  cases e <;> rfl

lemma isDefinition_congr {e e' : Expr} (h : e'.bare = e.bare) :
    e'.isDefinition = e.isDefinition := by
  rw [← isDefinition_bare e', h, isDefinition_bare]

lemma bare_join (c : Connective) (e e' : Expr) (s : Option Span) :
    (Expr.join c e e' s).bare = .join c e.bare e'.bare none := by
  cases c <;> rfl

/-- **Whether tokens are a phrase, and which one, depends on what they say.** -/
theorem Derives.congr {p : Phrase} {ts us : List Token} (h : Derives p ts)
    (hus : us.map Token.bare = ts.map Token.bare) : Rederives p us := by
  induction h generalizing us with
  | ret ht _ ih =>
    obtain ⟨t, us, rfl, ht', hus⟩ := List.map_eq_cons_iff.1 hus
    obtain ⟨e, he, hbare⟩ := ih hus
    refine ⟨_, .ret ((Token.bare_inj ht').1.trans ht) he, ?_⟩
    simp [Expr.bare, hbare]
  | assign ht hu _ ih =>
    obtain ⟨t, _, rfl, ht', hus⟩ := List.map_eq_cons_iff.1 hus
    obtain ⟨u, us, rfl, hu', hus⟩ := List.map_eq_cons_iff.1 hus
    obtain ⟨e, he, hbare⟩ := ih hus
    refine ⟨_, .assign ((Token.bare_inj ht').1.trans ht) ((Token.bare_inj hu').1.trans hu) he, ?_⟩
    simp [Expr.bare, ht', hbare]
  | callEmpty ht hu hv =>
    obtain ⟨t, _, rfl, ht', hus⟩ := List.map_eq_cons_iff.1 hus
    obtain ⟨u, _, rfl, hu', hus⟩ := List.map_eq_cons_iff.1 hus
    obtain ⟨v, _, rfl, hv', hus⟩ := List.map_eq_cons_iff.1 hus
    obtain rfl := List.map_eq_nil_iff.1 hus
    refine ⟨_, .callEmpty ((Token.bare_inj ht').1.trans ht) ((Token.bare_inj hu').1.trans hu)
      ((Token.bare_inj hv').1.trans hv), ?_⟩
    simp [Expr.bare, (Token.bare_inj ht').2]
  | call ht hu _ hb hv ih =>
    obtain ⟨t, _, rfl, ht', hus⟩ := List.map_eq_cons_iff.1 hus
    obtain ⟨u, _, rfl, hu', hus⟩ := List.map_eq_cons_iff.1 hus
    rw [List.map_append] at hus
    obtain ⟨us, _, rfl, hargs, hus⟩ := List.map_eq_append_iff.1 hus
    obtain ⟨v, _, rfl, hv', hus⟩ := List.map_eq_cons_iff.1 hus
    obtain rfl := List.map_eq_nil_iff.1 hus
    obtain ⟨es, hes, hbare⟩ := ih hargs
    refine ⟨_, .call ((Token.bare_inj ht').1.trans ht) ((Token.bare_inj hu').1.trans hu) hes
      ((begins_congr hargs).not.2 hb) ((Token.bare_inj hv').1.trans hv), ?_⟩
    simp [Expr.bare, (Token.bare_inj ht').2, hbare]
  | chain ht hu hc _ ih =>
    obtain ⟨t, _, rfl, ht', hus⟩ := List.map_eq_cons_iff.1 hus
    obtain ⟨u, us, rfl, hu', hus⟩ := List.map_eq_cons_iff.1 hus
    obtain ⟨e, he, hbare⟩ := ih hus
    obtain ⟨hukind, hupayload⟩ := Token.bare_inj hu'
    rw [← (Token.bare_inj ht').1] at ht
    refine ⟨_, .chain ht (hukind.trans hu) (hupayload ▸ hc) he, ?_⟩
    simp [bare_join, Expr.bare, ht', hbare]
  | operand ht =>
    obtain ⟨t, _, rfl, ht', hus⟩ := List.map_eq_cons_iff.1 hus
    obtain rfl := List.map_eq_nil_iff.1 hus
    rw [← (Token.bare_inj ht').1] at ht
    refine ⟨_, .operand ht, ?_⟩
    simp [Expr.bare, ht']
  | stray ht =>
    obtain ⟨t, _, rfl, ht', hus⟩ := List.map_eq_cons_iff.1 hus
    obtain rfl := List.map_eq_nil_iff.1 hus
    rw [← (Token.bare_inj ht').1] at ht
    refine ⟨_, .stray ht, ?_⟩
    simp [Expr.bare, Token.asError, Token.bare, (Token.bare_inj ht').2]
  | define ht hh _ hv ih =>
    obtain ⟨t, _, rfl, ht', hus⟩ := List.map_eq_cons_iff.1 hus
    rw [List.map_append] at hus
    obtain ⟨us, _, rfl, hhead, hus⟩ := List.map_eq_append_iff.1 hus
    rw [List.map_append] at hus
    obtain ⟨vs, _, rfl, hbody, hus⟩ := List.map_eq_append_iff.1 hus
    obtain ⟨v, _, rfl, hv', hus⟩ := List.map_eq_cons_iff.1 hus
    obtain rfl := List.map_eq_nil_iff.1 hus
    obtain ⟨head, hhead', hname, hreturn, hparams⟩ := hh.congr hhead
    obtain ⟨es, hes, hbare⟩ := ih hbody
    refine ⟨_, .define ((Token.bare_inj ht').1.trans ht) hhead' hes
      ((Token.bare_inj hv').1.trans hv), ?_⟩
    simp [Expr.bare, hname, hreturn, hparams, hbare]
  | lastArg _ ih =>
    obtain ⟨e, he, hbare⟩ := ih hus
    exact ⟨_, .lastArg he, by simp [Expr.bares, hbare]⟩
  | moreArgs _ ht _ ih ihs =>
    rw [List.map_append] at hus
    obtain ⟨us, _, rfl, hfirst, hus⟩ := List.map_eq_append_iff.1 hus
    obtain ⟨t, vs, rfl, ht', hus⟩ := List.map_eq_cons_iff.1 hus
    obtain ⟨e, he, hbare⟩ := ih hfirst
    obtain ⟨es, hes, hbares⟩ := ihs hus
    refine ⟨_, .moreArgs he ((Token.bare_inj ht').1.trans ht) hes, ?_⟩
    simp [Expr.bares, hbare, hbares]
  | definition _ hd ih =>
    obtain ⟨e, he, hbare⟩ := ih hus
    rw [← isDefinition_congr hbare] at hd
    exact ⟨_, .definition he hd, hbare⟩
  | terminated _ hd ht ih =>
    rw [List.map_append] at hus
    obtain ⟨us, _, rfl, hfirst, hus⟩ := List.map_eq_append_iff.1 hus
    obtain ⟨t, _, rfl, ht', hus⟩ := List.map_eq_cons_iff.1 hus
    obtain rfl := List.map_eq_nil_iff.1 hus
    obtain ⟨e, he, hbare⟩ := ih hfirst
    rw [← isDefinition_congr hbare] at hd
    exact ⟨_, .terminated he hd ((Token.bare_inj ht').1.trans ht), hbare⟩
  | bodyEnd =>
    obtain rfl := List.map_eq_nil_iff.1 hus
    exact ⟨[], .bodyEnd, rfl⟩
  | bodyMore _ hb _ ih ihs =>
    rw [List.map_append] at hus
    obtain ⟨us, vs, rfl, hfirst, hus⟩ := List.map_eq_append_iff.1 hus
    obtain ⟨e, he, hbare⟩ := ih hfirst
    obtain ⟨es, hes, hbares⟩ := ihs hus
    refine ⟨_, .bodyMore he ((begins_congr hfirst).not.2 hb) hes, ?_⟩
    simp [Expr.bares, hbare, hbares]
  | programEnd =>
    obtain rfl := List.map_eq_nil_iff.1 hus
    exact ⟨[], .programEnd, rfl⟩
  | programMore _ _ ih ihs =>
    rw [List.map_append] at hus
    obtain ⟨us, vs, rfl, hfirst, hus⟩ := List.map_eq_append_iff.1 hus
    obtain ⟨e, he, hbare⟩ := ih hfirst
    obtain ⟨es, hes, hbares⟩ := ihs hus
    refine ⟨_, .programMore he hes, ?_⟩
    simp [Expr.bares, hbare, hbares]

end Grammar

end Scriptlet
