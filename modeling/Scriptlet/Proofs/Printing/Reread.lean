import Scriptlet.Program
import Scriptlet.Proofs.Grammar.Completeness
import Scriptlet.Proofs.Printing.Layout
import Scriptlet.Proofs.Printing.Strings

/-!
# Reading printed programs

A program that was read and printed is read again as what it was, unless one of its strings holds a
character that quoting writes by its code point: then reading stops at that escape.
-/

namespace Scriptlet

open Token

namespace Grammar

lemma endless_of_lexed {ts : List Token} (h : ∀ t ∈ ts, Lexed t) : Endless ts :=
  fun t ht => (h t ht).kind_ne.2

/-- Reading stops before the end token, which only gives a place to what is missing there. -/
lemma readProgram_concat {ts : List Token} {t : Token} (hts : Endless ts) (ht : t.kind = .eof) :
    readProgram (ts ++ [t]) = readStatements t.span ts := by
  have hfind : (ts ++ [t]).find? (·.kind = .eof) = some t := by
    have hnone : ts.find? (·.kind = .eof) = none := by
      rw [List.find?_eq_none]
      intro u hu
      simpa using hts u hu
    rw [List.find?_append, hnone]
    simp [ht]
  have htake : (ts ++ [t]).takeWhile (·.kind ≠ .eof) = ts := by
    rw [List.takeWhile_append_of_pos fun u hu => by simpa using hts u hu]
    simp [ht]
  rw [readProgram, hfind, htake]
  rfl

lemma readsAll_readProgram {ts : List Token} {t : Token} (hts : ∀ u ∈ ts, Lexed u)
    (ht : t.kind = .eof) : ReadsAll ts (readProgram (ts ++ [t])) := by
  rw [readProgram_concat (endless_of_lexed hts) ht]
  exact readsAll_readStatements (endless_of_lexed hts) t.span

end Grammar

lemma Expr.allSame_iff (es fs : List Expr) : allSame es fs = true ↔ bares es = bares fs :=
  allSame_iff_of (fun e _ f => same_iff e f) fs

namespace Source

open Grammar

lemma statements_of_error {source : Source} {f : Failure} (h : source.tokens = .error f) :
    source.statements.2 = .error f := by
  unfold statements
  rw [h]

lemma statements_of_tokens {source : Source} {ts : List Token} (h : source.tokens = .ok ts) :
    source.statements.2 = (readProgram ts).mapError fun stop => .language stop.error := by
  unfold statements
  rw [h]
  dsimp only
  cases readProgram ts <;> rfl

/-- The statements of a text are derived from its tokens. -/
lemma derives_of_statements {source : Source} {es : List Expr}
    (h : source.statements.2 = .ok es) :
    ∃ ts t, source.tokens = .ok (ts ++ [t]) ∧ t.kind = .eof ∧ (∀ u ∈ ts, Lexed u) ∧
      Derives (.program es) ts := by
  cases htokens : source.tokens with
  | error failure =>
    rw [statements_of_error htokens] at h
    cases h
  | ok us =>
    obtain ⟨ts, t, rfl, ht, hts⟩ := Scanner.lexed_tokens htokens
    have hread := readsAll_readProgram hts ht
    rw [statements_of_tokens htokens] at h
    cases hprogram : readProgram (ts ++ [t]) with
    | error stop =>
      rw [hprogram] at h
      cases h
    | ok fs =>
      rw [hprogram] at h hread
      cases h
      exact ⟨ts, t, rfl, ht, hts, hread⟩

/-- What derivable tokens and an end token are read as. -/
lemma statements_of_derives {source : Source} {ts : List Token} {t : Token} {es : List Expr}
    (htokens : source.tokens = .ok (ts ++ [t])) (ht : t.kind = .eof) (hts : Endless ts)
    (h : Derives (.program es) ts) : source.statements.2 = .ok es := by
  have hread : readProgram (ts ++ [t]) = .ok es := by
    rw [readProgram_concat hts ht]
    exact complete h t.span
  rw [statements_of_tokens htokens, hread]
  rfl

/-- What a text is read as if its tokens say the same as derivable ones. -/
lemma statements_of_bare {source : Source} {ts us : List Token} {e : Token} {es : List Expr}
    (h : source.tokens = .ok (us ++ [e])) (hus : us.map bare = ts.map bare)
    (hd : Derives (.program es) ts) :
    ∃ fs, source.statements.2 = .ok fs ∧ Expr.allSame es fs = true := by
  obtain ⟨fs, hfs, hbares⟩ := hd.congr hus
  obtain ⟨vs, t, hsplit, ht, hlexed⟩ := Scanner.lexed_tokens h
  obtain ⟨rfl, he⟩ := List.append_inj' hsplit rfl
  obtain rfl : e = t := List.singleton_inj.1 he
  refine ⟨fs, statements_of_derives h ht (endless_of_lexed hlexed) hfs, ?_⟩
  rw [Expr.allSame_iff, hbares]

/-- Programs whose tokens say the same say the same. -/
lemma statements_congr {source source' : Source} {ts us : List Token} {es : List Expr}
    (hts : source.tokens = .ok ts) (hus : source'.tokens = .ok us)
    (hbare : us.map bare = ts.map bare) (h : source.statements.2 = .ok es) :
    ∃ fs, source'.statements.2 = .ok fs ∧ Expr.allSame es fs = true := by
  obtain ⟨vs, t, hvs, -, -, hd⟩ := derives_of_statements h
  obtain rfl : ts = vs ++ [t] := Except.ok.inj (hts.symm.trans hvs)
  rw [List.map_append] at hbare
  obtain ⟨ws, xs, rfl, hws, hxs⟩ := List.map_eq_append_iff.1 hbare
  obtain ⟨u, _, rfl, -, hnil⟩ := List.map_eq_cons_iff.1 hxs
  obtain rfl := List.map_eq_nil_iff.1 hnil
  exact statements_of_bare hus hws hd

end Source

namespace Expr

open Grammar

/-- **Which programs can be read again from what they print.**  If quoting writes no character of
their strings by its code point, the statements that are read from the printed program say the same
as those printed; otherwise the printed program has no tokens, because an escape in it is none. -/
theorem statements_programText {source : Source} {es : List Expr}
    (h : source.statements.2 = .ok es) (file : Option String) :
    ((∀ s ∈ allStrings es, Rereadable s) →
      ∃ fs, (Source.mk (programText es) file).statements.2 = .ok fs ∧ allSame es fs = true) ∧
    ((∃ s ∈ allStrings es, ¬ Rereadable s) →
      ∃ e, (Source.mk (programText es) file).tokens = .error (.language e) ∧ e.code = "E005") := by
  obtain ⟨ts, t, -, -, hts, hd⟩ := Source.derives_of_statements h
  obtain ⟨us, fs, hfs, hbares, hprinted⟩ := hd.reprints hts
  have hstrings : allStrings es = us.filterMap string? :=
    (allStrings_congr hbares.symm).trans hfs.strings
  have hmem (s : String) : s ∈ allStrings es ↔ ∃ u ∈ us, s ∈ u.string? := by
    rw [hstrings, List.mem_filterMap]
    rfl
  have hspells := hprinted.spells none rfl
  obtain ⟨hall, ws, e, htokens, he, hws⟩ | ⟨⟨u, hu, s, hs, hbad⟩, e, what, htokens, he⟩ :=
    Spells.tokens (s := Scanner.ofSource (Source.mk (programText es) file)) hspells
  · refine ⟨fun _ => ?_, fun ⟨s, hs, hbad⟩ => ?_⟩
    · obtain ⟨gs, hgs, hbares'⟩ := hfs.congr hws
      obtain ⟨xs, f, hsplit, -, hxs⟩ := Scanner.lexed_tokens htokens
      obtain rfl : ws = xs := List.append_inj_left' hsplit rfl
      refine ⟨gs, Source.statements_of_derives htokens he (endless_of_lexed hxs) hgs, ?_⟩
      rw [allSame_iff, hbares', hbares]
    · obtain ⟨u, hu, hus⟩ := (hmem s).1 hs
      exact absurd (hall u hu s hus) hbad
  · refine ⟨fun hall => ?_, fun _ => ⟨e, htokens, by rw [LangError.code, he]; rfl⟩⟩
    exact absurd (hall s ((hmem s).2 ⟨u, hu, hs⟩)) hbad

/-- The escape `\0` can be read, but is printed as `\x00`, which cannot. -/
theorem statements_programText_nul :
    ∃ es, (Source.mk "print('\\0');" none).statements.2 = .ok es ∧
      ∃ e, (Source.mk (programText es) none).tokens = .error (.language e) ∧ e.code = "E005" := by
  have hstrings : (Source.mk "print('\\0');" none).statements.2.toOption.map allStrings =
      some ["\x00"] := by decide +kernel
  cases hread : (Source.mk "print('\\0');" none).statements.2 with
  | error failure =>
    rw [hread] at hstrings
    cases hstrings
  | ok es =>
    rw [hread] at hstrings
    have hes : allStrings es = ["\x00"] := Option.some.inj hstrings
    refine ⟨es, rfl, (statements_programText hread none).2 ⟨"\x00", by simp [hes], fun h => ?_⟩⟩
    exact absurd (h '\x00' (by decide)) (by decide)

end Expr

end Scriptlet
