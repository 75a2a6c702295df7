import Mathlib.Data.List.DropRight
import Scriptlet.Position
import Scriptlet.Proofs.Scanning.Tiling

/-!
# Two ways to count lines

A position counts line feeds, and the lines that are shown are those between line breaks of any
kind.  In a text whose only line breaks are line feeds, each perhaps behind a carriage return, both
count the same lines (`lineAt?_behind`), so the line that a position names is the one around it.
-/

namespace Scriptlet

namespace Text

/-- The only line breaks are line feeds and carriage returns right before line feeds. -/
def PlainBreaks (cs : List Char) : Prop :=
  ∀ ds c es, cs = ds ++ c :: es → isLineBreak c = true → c = '\n' ∨ c = '\r' ∧ es.head? = some '\n'

/-- Nothing is there, or a line has just ended. -/
def AtLineStart (cs : List Char) : Prop := cs = [] ∨ cs.getLast? = some '\n'

/-- The text consists of `head`, of a line, of what ends it, and of `tail`, and the place at
`offset` is in the line or right behind it. -/
structure Around (cs : List Char) (offset : Nat) (head line stop tail : List Char) : Prop where
  /-- The four parts. -/
  split : cs = head ++ (line ++ (stop ++ tail))
  /-- The line starts where it does. -/
  starts : AtLineStart head
  /-- It does not end before it does. -/
  unbroken : ∀ c ∈ line, isLineBreak c = false
  /-- It ends with a line feed, which may be behind a carriage return, or with the text. -/
  ends : stop = ['\n'] ∨ stop = ['\r', '\n'] ∨ stop = [] ∧ tail = []
  /-- The place is not before it. -/
  le : head.length ≤ offset
  /-- The place is not behind the end of it. -/
  ge : offset ≤ head.length + line.length

/-! ## Texts with plain line breaks -/

section PlainBreaks

variable {cs ds : List Char} {c : Char}

lemma PlainBreaks.of_append_left (h : PlainBreaks (cs ++ ds)) : PlainBreaks ds := by
  rintro xs c es rfl hc
  exact h (cs ++ xs) c es (List.append_assoc cs xs (c :: es)).symm hc

lemma PlainBreaks.of_append_right (h : PlainBreaks (cs ++ ds)) (hcs : AtLineStart cs) :
    PlainBreaks cs := by
  rintro xs c es rfl hc
  refine (h xs c (es ++ ds) (by simp) hc).imp_right fun ⟨hreturn, hnext⟩ => ⟨hreturn, ?_⟩
  cases es with
  | cons e es => exact hnext
  | nil =>
    -- the text does not end with a carriage return
    obtain hnil | hlast := hcs
    · simp at hnil
    · rw [List.getLast?_concat, hreturn] at hlast
      cases hlast

lemma PlainBreaks.tail (h : PlainBreaks (c :: cs)) : PlainBreaks cs := by
  rw [← List.singleton_append] at h
  exact h.of_append_left

lemma PlainBreaks.head (h : PlainBreaks (c :: cs)) (hc : isLineBreak c = true) :
    c = '\n' ∨ c = '\r' ∧ cs.head? = some '\n' :=
  h [] c cs rfl hc

lemma plainBreaks_cons : PlainBreaks (c :: cs) ↔
    (isLineBreak c = true → c = '\n' ∨ c = '\r' ∧ cs.head? = some '\n') ∧ PlainBreaks cs := by
  refine ⟨fun h => ⟨h.head, h.tail⟩, fun ⟨hc, hcs⟩ => ?_⟩
  rintro (_ | ⟨d, ds⟩) e es hsplit he
  · cases hsplit
    exact hc he
  · obtain ⟨-, hsplit⟩ := List.cons.inj hsplit
    exact hcs ds e es hsplit he

lemma plainBreaks_nil : PlainBreaks [] := by
  intro ds c es hsplit
  simp at hsplit

instance decidablePlainBreaks : (cs : List Char) → Decidable (PlainBreaks cs)
  | [] => isTrue plainBreaks_nil
  | _ :: cs =>
    have := decidablePlainBreaks cs
    decidable_of_iff _ plainBreaks_cons.symm

lemma AtLineStart.tail {cs : List Char} (h : AtLineStart (c :: cs)) : AtLineStart cs := by
  obtain h | h := h
  · cases h
  · cases cs with
    | nil => exact .inl rfl
    | cons d ds => exact .inr h

lemma AtLineStart.ne_nil {cs : List Char} (h : AtLineStart (c :: cs)) (hc : c ≠ '\n') :
    cs ≠ [] := by
  rintro rfl
  obtain h | h := h
  · cases h
  · exact hc (Option.some.inj h)

end PlainBreaks

/-! ## Lines -/

/-- Lines that have ended do not change with what follows. -/
lemma splitLines_append {cs : List Char} (h : AtLineStart cs) (ds : List Char) :
    splitLines (cs ++ ds) = splitLines cs ++ splitLines ds := by
  fun_induction splitLines cs with
  | case1 => rfl
  | case2 cs ih =>
    rw [List.cons_append, List.cons_append, splitLines, ih h.tail.tail]
    rfl
  | case3 c cs hcrlf hc ih =>
    have hcrlf' : ∀ es, c = '\r' → cs ++ ds ≠ '\n' :: es := by
      rintro es rfl hes
      obtain ⟨d, cs', rfl⟩ := List.exists_cons_of_ne_nil (h.ne_nil (by decide))
      cases hes
      exact hcrlf cs' rfl rfl
    rw [List.cons_append, splitLines, if_pos hc, ih h.tail]
    · rfl
    · exact hcrlf'
  | case4 c cs hcrlf hc hnil ih =>
    have hne : cs ≠ [] := h.ne_nil (by rintro rfl; exact hc rfl)
    exact absurd (splitLines_eq_nil_iff.1 hnil) hne
  | case5 c cs hcrlf hc line lines hlines ih =>
    have hcrlf' : ∀ es, c = '\r' → cs ++ ds ≠ '\n' :: es := by
      rintro es rfl
      exact absurd rfl hc
    rw [List.cons_append, splitLines, if_neg hc, ih h.tail, hlines]
    · rfl
    · exact hcrlf'

/-- They are as many as there are line feeds. -/
lemma length_splitLines {cs : List Char} (hcs : PlainBreaks cs) (h : AtLineStart cs) :
    (splitLines cs).length = cs.count '\n' := by
  fun_induction splitLines cs with
  | case1 => rfl
  | case2 cs ih =>
    rw [List.length_cons, ih hcs.tail.tail h.tail.tail]
    simp
  | case3 c cs hcrlf hc ih =>
    obtain rfl : c = '\n' := by
      obtain hline | ⟨hreturn, hline⟩ := hcs.head hc
      · exact hline
      · obtain ⟨es, rfl⟩ := List.head?_eq_some_iff.1 hline
        exact absurd rfl (hcrlf es hreturn)
    rw [List.length_cons, ih hcs.tail h.tail, List.count_cons_self]
  | case4 c cs hcrlf hc hnil ih =>
    have hne : cs ≠ [] := h.ne_nil (by rintro rfl; exact hc rfl)
    exact absurd (splitLines_eq_nil_iff.1 hnil) hne
  | case5 c cs hcrlf hc line lines hlines ih =>
    have hcount := ih hcs.tail h.tail
    have hline : c ≠ '\n' := by
      rintro rfl
      exact hc rfl
    rw [hlines] at hcount
    rw [List.count_cons_of_ne hline, ← hcount]
    rfl

/-- The first line of a text. -/
lemma head?_splitLines {line stop tail : List Char} (hline : ∀ c ∈ line, isLineBreak c = false)
    (hstop : stop = ['\n'] ∨ stop = ['\r', '\n'] ∨ stop = [] ∧ tail = []) :
    (splitLines (line ++ (stop ++ tail))).head? =
      if line ++ stop = [] then none else some line := by
  induction line with
  | nil =>
    obtain rfl | rfl | ⟨rfl, rfl⟩ := hstop
    · rfl
    · rfl
    · rfl
  | cons c line ih =>
    obtain ⟨hc, hline⟩ := List.forall_mem_cons.1 hline
    have hcrlf : ∀ es, c = '\r' → line ++ (stop ++ tail) ≠ '\n' :: es := by
      rintro es rfl
      cases hc
    rw [List.cons_append, splitLines, hc]
    · have hrest := ih hline
      rw [if_neg Bool.false_ne_true, List.cons_append, if_neg (List.cons_ne_nil _ _)]
      cases hlines : splitLines (line ++ (stop ++ tail)) with
      | nil =>
        obtain rfl := (List.append_eq_nil_iff.1 (splitLines_eq_nil_iff.1 hlines)).1
        rfl
      | cons first more =>
        rw [hlines] at hrest
        split at hrest
        · cases hrest
        · obtain rfl : first = line := Option.some.inj hrest
          rfl
    · exact hcrlf

/-- The line around a place has as many line feeds before it as its number says. -/
lemma Around.getElem?_splitLines {cs head line stop tail : List Char} {offset : Nat}
    (h : Around cs offset head line stop tail) (hcs : PlainBreaks head) :
    (splitLines cs)[head.count '\n']? = if line ++ stop = [] then none else some line := by
  rw [h.split, splitLines_append h.starts, ← length_splitLines hcs h.starts,
    List.getElem?_append_right (Nat.le_refl _), Nat.sub_self, ← List.head?_eq_getElem?]
  exact head?_splitLines h.unbroken h.ends

/-! ## The line around a place -/

/-- The rest of a line, and what ends it. -/
lemma exists_stop {cs : List Char} (h : PlainBreaks cs) :
    ∃ line stop tail, cs = line ++ (stop ++ tail) ∧ (∀ c ∈ line, isLineBreak c = false) ∧
      (stop = ['\n'] ∨ stop = ['\r', '\n'] ∨ stop = [] ∧ tail = []) := by
  induction cs with
  | nil => exact ⟨[], [], [], rfl, List.forall_mem_nil _, .inr (.inr ⟨rfl, rfl⟩)⟩
  | cons c cs ih =>
    cases hc : isLineBreak c with
    | false =>
      obtain ⟨line, stop, tail, rfl, hline, hstop⟩ := ih h.tail
      exact ⟨c :: line, stop, tail, rfl, List.forall_mem_cons.2 ⟨hc, hline⟩, hstop⟩
    | true =>
      obtain rfl | ⟨rfl, hline⟩ := h.head hc
      · exact ⟨[], ['\n'], cs, rfl, List.forall_mem_nil _, .inl rfl⟩
      · obtain ⟨ds, rfl⟩ := List.head?_eq_some_iff.1 hline
        exact ⟨[], ['\r', '\n'], ds, rfl, List.forall_mem_nil _, .inr (.inl rfl)⟩

/-- The lines that have ended. -/
def ended (cs : List Char) : List Char := cs.rdropWhile (· ≠ '\n')

/-- The line that has not ended yet. -/
def current (cs : List Char) : List Char := cs.rtakeWhile (· ≠ '\n')

lemma ended_append_current (cs : List Char) : ended cs ++ current cs = cs :=
  List.rdropWhile_append_rtakeWhile

lemma ne_of_mem_current {cs : List Char} {c : Char} (h : c ∈ current cs) : c ≠ '\n' := by
  simpa using List.mem_rtakeWhile_imp h

lemma atLineStart_ended (cs : List Char) : AtLineStart (ended cs) := by
  by_cases h : ended cs = []
  · exact .inl h
  · refine .inr ?_
    have hlast : ¬ decide ((ended cs).getLast h ≠ '\n') = true :=
      List.rdropWhile_last_not (fun c => decide (c ≠ '\n')) cs h
    rw [List.getLast?_eq_some_getLast h]
    simpa using hlast

lemma current_eq_nil_iff {cs : List Char} : current cs = [] ↔ AtLineStart cs := by
  constructor
  · intro h
    have hcs := ended_append_current cs
    rw [h, List.append_nil] at hcs
    rw [← hcs]
    exact atLineStart_ended cs
  · rintro (rfl | h)
    · rfl
    · rw [current, List.rtakeWhile_eq_nil_iff]
      intro hne
      rw [List.getLast?_eq_some_getLast hne] at h
      simpa using Option.some.inj h

lemma count_ended (cs : List Char) : (ended cs).count '\n' = cs.count '\n' := by
  have hnone : '\n' ∉ current cs := fun h => ne_of_mem_current h rfl
  conv_rhs => rw [← ended_append_current cs, List.count_append, List.count_eq_zero.2 hnone,
    Nat.add_zero]

section

variable {before after : List Char}

/-- No line break stands between the last line feed and the place. -/
lemma unbroken_current (h : PlainBreaks (before ++ after))
    (hcrlf : before.getLast? = some '\r' → after.head? ≠ some '\n') :
    ∀ c ∈ current before, isLineBreak c = false := by
  intro c hc
  cases hbreak : isLineBreak c with
  | false => rfl
  | true =>
    obtain ⟨ds, es, hsplit⟩ := List.mem_iff_append.1 hc
    have hbefore : ended before ++ ds ++ c :: es = before := by
      rw [List.append_assoc, ← hsplit, ended_append_current]
    have htext : before ++ after = ended before ++ ds ++ c :: (es ++ after) := by
      conv_lhs => rw [← hbefore]
      simp
    obtain rfl | ⟨rfl, hnext⟩ := h _ _ _ htext hbreak
    · exact absurd rfl (ne_of_mem_current hc)
    · -- the carriage return is the last character, or no line feed is behind it
      cases es with
      | nil =>
        refine absurd hnext (hcrlf ?_)
        rw [← hbefore, List.getLast?_concat]
      | cons e es =>
        have he : e ∈ current before := by
          rw [hsplit]
          simp
        exact absurd (Option.some.inj hnext) (ne_of_mem_current he)

/-- Around each place of a text there is a line. -/
lemma exists_around (h : PlainBreaks (before ++ after))
    (hcrlf : before.getLast? = some '\r' → after.head? ≠ some '\n') :
    ∃ post stop tail,
      Around (before ++ after) before.length (ended before) (current before ++ post) stop tail ∧
        (post ++ stop = [] ↔ after = []) := by
  have hlength := congrArg List.length (ended_append_current before)
  rw [List.length_append] at hlength
  obtain ⟨post, stop, tail, rfl, hpost, hstop⟩ := exists_stop h.of_append_left
  refine ⟨post, stop, tail, ⟨?_, atLineStart_ended before, ?_, hstop, ?_, ?_⟩, ?_⟩
  · rw [List.append_assoc, ← List.append_assoc (ended before), ended_append_current]
  · exact List.forall_mem_append.2 ⟨unbroken_current h hcrlf, hpost⟩
  · omega
  · rw [List.length_append]
    omega
  · constructor
    · intro hnil
      obtain ⟨rfl, rfl⟩ := List.append_eq_nil_iff.1 hnil
      obtain hstop | hstop | ⟨-, rfl⟩ := hstop
      · cases hstop
      · cases hstop
      · rfl
    · intro hnil
      rw [← List.append_assoc] at hnil
      exact (List.append_eq_nil_iff.1 hnil).1

end

end Text

open Text

lemma lineAt?_behind (text : String) (before : List Char) :
    lineAt? text (Position.behind before).line =
      ((splitLines text.toList)[before.count '\n']?).map String.ofList := by
  have hnumber : (Position.behind before).line - 1 = before.count '\n' :=
    Nat.add_sub_cancel_left 1 _
  have hpos : (Position.behind before).line ≠ 0 := by simp [Position.behind]
  rw [lineAt?, if_neg hpos, hnumber, Text.lines, List.getElem?_map]

/-- **The line that a position names is the one around it.**  There is none at the end of a text
that is empty or ends with a line feed. -/
theorem lineAt?_around {text : String} {before after : List Char}
    (htext : text.toList = before ++ after) (h : PlainBreaks text.toList)
    (hcrlf : before.getLast? = some '\r' → after.head? ≠ some '\n') :
    ∃ post stop tail,
      Around text.toList before.length (ended before) (current before ++ post) stop tail ∧
      (lineAt? text (Position.behind before).line = none ↔ after = [] ∧ AtLineStart before) ∧
      ∀ line, lineAt? text (Position.behind before).line = some line →
        line.toList = current before ++ post := by
  rw [lineAt?_behind]
  rw [htext] at h ⊢
  obtain ⟨post, stop, tail, haround, hnil⟩ := exists_around h hcrlf
  have hended : PlainBreaks (ended before) := by
    rw [haround.split] at h
    exact h.of_append_right haround.starts
  have hline := haround.getElem?_splitLines hended
  have hempty : current before ++ post ++ stop = [] ↔ after = [] ∧ AtLineStart before := by
    rw [List.append_assoc, List.append_eq_nil_iff, hnil, current_eq_nil_iff]
    exact and_comm
  rw [count_ended] at hline
  refine ⟨post, stop, tail, haround, ?_, ?_⟩
  · rw [hline, Option.map_eq_none_iff, ← hempty]
    split <;> simp_all
  · intro line hsome
    rw [hline] at hsome
    split at hsome
    · cases hsome
    · rw [← Option.some.inj hsome, String.toList_ofList]

end Scriptlet
