import Scriptlet.Proofs.Grammar.Bare
import Scriptlet.Proofs.Grammar.Earliest

/-!
# Why tokens are no program

Whether tokens are a program, and what is wrong with them if they are none, depends on what they say
(`Refused.congr`).  A program that stands before them changes nothing about that (`Refused.append`).
-/

namespace Scriptlet.Grammar

open Token Goal

/-! ## Places and texts -/

section Bare

variable {ts : List Token} {next : Option Token} {c : Cause}

lemma map_bare_bare (ts : List Token) : (ts.map bare).map bare = ts.map bare := by
  rw [List.map_map]
  rfl

lemma lacks_bare (what : String) (next : Option Token) :
    lacks what (next.map bare) = lacks what next := by
  cases next <;> rfl

lemma Misses.bare {k : Kind} (h : Misses k next) : Misses k (next.map bare) := by
  intro t ht
  obtain ⟨u, hu, rfl⟩ := Option.map_eq_some_iff.1 ht
  exact h u hu

lemma takes_bare (e : Expr) (k : Kind) : takes e.bare k = takes e k := by
  induction e using Expr.induction with
  | assign _ _ _ _ ih | binary _ _ _ _ _ ih | ret _ _ ih => exact ih
  | _ => rfl

lemma Leaves.bare {e e' : Expr} (h : Leaves e next) (he : e'.bare = e.bare) :
    Leaves e' (next.map bare) := by
  intro t ht
  obtain ⟨u, hu, rfl⟩ := Option.map_eq_some_iff.1 ht
  rw [← takes_bare, he, takes_bare]
  exact h u hu

lemma begins_bare {k : Kind} : Begins k (ts.map bare) ↔ Begins k ts :=
  begins_congr (map_bare_bare ts)

lemma map_bare_peek (ts : List Token) (next : Option Token) :
    ts.map bare ++ (next.map bare).toList = (ts ++ next.toList).map bare := by
  cases next <;> simp

lemma ParamsStuck.bare (h : ParamsStuck ts next c) :
    ParamsStuck (ts.map bare) (next.map bare) c := by
  induction h with
  | type h =>
    rw [← lacks_bare]
    exact .type h.bare
  | name ht h =>
    rw [← lacks_bare]
    exact .name ht h.bare
  | separator ht hn h h' =>
    rw [← lacks_bare]
    exact .separator ht hn h.bare h'.bare
  | more ht hn hc _ ih => exact .more ht hn hc ih

lemma ReturnStuck.bare (h : ReturnStuck ts next c) :
    ReturnStuck (ts.map bare) (next.map bare) c := by
  cases h with
  | clause h h' =>
    rw [← lacks_bare]
    exact .clause h.bare h'.bare
  | type ha h =>
    rw [← lacks_bare]
    exact .type ha h.bare
  | brace ha ht h =>
    rw [← lacks_bare]
    exact .brace ha ht h.bare

lemma HeadStuck.bare (h : HeadStuck ts next c) : HeadStuck (ts.map bare) (next.map bare) c := by
  cases h with
  | name h =>
    rw [← lacks_bare]
    exact .name h.bare
  | paren hn h =>
    rw [← lacks_bare]
    exact .paren hn h.bare
  | params hn hl h hb =>
    refine .params hn hl h.bare ?_
    rwa [map_bare_peek, begins_bare]
  | returnType hn hl hp hr h =>
    obtain ⟨ps, hps, -⟩ := hp.congr (map_bare_bare _)
    rw [List.map_cons, List.map_cons, List.map_append]
    exact .returnType hn hl hps hr h.bare

/-- What tokens are stuck for does not depend on places and texts. -/
theorem Stuck.bare {g : Goal} (h : Stuck g ts next c) :
    Stuck g (ts.map bare) (next.map bare) c := by
  induction h with
  | exprEnd => exact .exprEnd
  | ret ht _ ih => exact .ret ht ih
  | assign ht hu _ ih => exact .assign ht hu ih
  | call ht hu _ hb ih =>
    refine .call ht hu ih ?_
    rwa [map_bare_peek, begins_bare]
  | @unknown t u _ ht hu hc => exact .unknown (t := t.bare) (u := u.bare) ht hu hc
  | @chain t u _ _ _ _ _ ht hu hd _ ih =>
    exact .chain (t := t.bare) (u := u.bare) ht hu hd ih
  | head ht h => exact .head ht h.bare
  | define ht hh _ ih =>
    obtain ⟨head, hhead, -⟩ := hh.congr (map_bare_bare _)
    rw [List.map_cons, List.map_append]
    exact .define ht hhead ih
  | firstArg _ ih => exact .firstArg ih
  | separator he hn h h' =>
    obtain ⟨e', he', hbare⟩ := he.congr (map_bare_bare _)
    rw [← lacks_bare]
    exact .separator he' (hn.bare hbare) h.bare h'.bare
  | moreArgs he ht _ ih =>
    obtain ⟨e', he', -⟩ := he.congr (map_bare_bare _)
    rw [List.map_append, List.map_cons]
    exact .moreArgs he' ht ih
  | statement _ ih => exact .statement ih
  | semicolon he hd hn h =>
    obtain ⟨e', he', hbare⟩ := he.congr (map_bare_bare _)
    rw [← lacks_bare]
    exact .semicolon he' ((isDefinition_congr hbare).trans hd) (hn.bare hbare) h.bare
  | bodyEnd => exact .bodyEnd
  | firstOfBody _ hne hb ih =>
    refine .firstOfBody ih ?_ ?_
    · rwa [map_bare_peek, ne_eq, List.map_eq_nil_iff]
    · rwa [map_bare_peek, begins_bare]
  | moreOfBody he hb _ ih =>
    obtain ⟨e', he', -⟩ := he.congr (map_bare_bare _)
    rw [List.map_append]
    exact .moreOfBody he' (by rwa [begins_bare]) ih
  | firstOfProgram _ hne ih =>
    refine .firstOfProgram ih ?_
    rwa [map_bare_peek, ne_eq, List.map_eq_nil_iff]
  | moreOfProgram he _ ih =>
    obtain ⟨e', he', -⟩ := he.congr (map_bare_bare _)
    rw [List.map_append]
    exact .moreOfProgram he' ih

lemma Endless.congr {us : List Token} (h : Endless ts)
    (hus : us.map Token.bare = ts.map Token.bare) : Endless us := by
  intro u hu
  have hmem : u.bare ∈ ts.map Token.bare := hus ▸ List.mem_map_of_mem hu
  obtain ⟨t, ht, hbare⟩ := List.mem_map.1 hmem
  rw [← (bare_inj hbare).1]
  exact h t ht

end Bare

/-! ## Refusals -/

/-- Somewhere the tokens cannot go on as those of a program, because of the cause. -/
def Refused (ts : List Token) (c : Cause) : Prop :=
  ∃ us rest, ts = us ++ rest ∧ Stuck program us rest.head? c

section Refused

variable {ts us : List Token} {c c' : Cause} {es fs : List Expr}

lemma Refused.error (h : Refused ts c) (ending : Option Span) :
    ∃ s, readStatements ending ts = .error s ∧ s.error.cause = c := by
  obtain ⟨us, rest, rfl, hstuck⟩ := h
  obtain ⟨read, hread⟩ := hstuck.fails ending rfl
  exact ⟨_, hread, rfl⟩

lemma refused_of_error {ending : Option Span} {s : Stop} (hts : Endless ts)
    (h : readStatements ending ts = .error s) : Refused ts s.error.cause := by
  have hsticks := sticks_readStatements hts ending
  rw [h] at hsticks
  obtain ⟨us, c, hsplit, herror, hstuck⟩ := hsticks
  rw [herror]
  exact ⟨us, s.rest, hsplit, hstuck⟩

/-- There is one thing wrong with tokens. -/
lemma Refused.unique (h : Refused ts c) (h' : Refused ts c') : c' = c := by
  obtain ⟨s, hs, rfl⟩ := h.error none
  obtain ⟨s', hs', rfl⟩ := h'.error none
  rw [Except.error.inj (hs.symm.trans hs')]

lemma Refused.not_derives (h : Refused ts c) : ¬ Derives (.program es) ts := by
  intro hd
  obtain ⟨s, hs, -⟩ := h.error none
  cases hs.symm.trans (complete hd none)

/-- **What is wrong with tokens depends on what they say.** -/
theorem Refused.congr (h : Refused ts c) (hts : Endless ts)
    (hus : us.map Token.bare = ts.map Token.bare) : Refused us c := by
  have hend : Endless us := hts.congr hus
  cases hread : readStatements none us with
  | ok es =>
    have hall : ReadsAll us (readStatements none us) := readsAll_readStatements hend none
    rw [hread] at hall
    obtain ⟨fs, hfs, -⟩ := Derives.congr hall hus.symm
    exact absurd hfs h.not_derives
  | error s =>
    have hs : Refused us s.error.cause := refused_of_error hend hread
    -- both are wrong with the tokens that are left without places and texts
    have hbare (ws : List Token) (d : Cause) (hw : Refused ws d) :
        Refused (ws.map Token.bare) d := by
      obtain ⟨vs, rest, rfl, hstuck⟩ := hw
      exact ⟨vs.map Token.bare, rest.map Token.bare, List.map_append, by simpa using hstuck.bare⟩
    have hsame := (hbare ts c h).unique (hus ▸ hbare us _ hs)
    exact hsame ▸ hs

/-- A program before them leaves the tokens as wrong as they are. -/
theorem Refused.append (hd : Derives (.program es) ts) (h : Refused us c) :
    Refused (ts ++ us) c := by
  generalize hp : Phrase.program es = p at hd
  induction hd generalizing es with
  | programEnd => exact h
  | programMore he _ _ ih =>
    obtain ⟨vs, rest, hsplit, hstuck⟩ := ih rfl
    refine ⟨_, rest, ?_, .moreOfProgram he hstuck⟩
    rw [List.append_assoc, List.append_assoc, hsplit]
  | _ => cases hp

end Refused

end Scriptlet.Grammar
