import Scriptlet.Proofs.Scanning.ReadBack

/-!
# What gaps consist of

A gap is a sequence of spaces, line comments and block comments.  Block comments nest, and inside of
them all that counts is where `/*` and `*/` stand.  `skipGap` skips nothing else (`isGap_skipGap`),
and it skips each gap whatever stands behind it (`IsGap.skipGap_append`).
-/

namespace Scriptlet.Token

/-- The text behind the `/*` of a block comment, as far as the `*/` that closes it. -/
inductive Closes : List Char → Prop
  /-- The comment is closed. -/
  | close : Closes ['*', '/']
  /-- A comment stands in the comment. -/
  | nested {cs ds : List Char} (h : Closes cs) (h' : Closes ds) :
      Closes ('/' :: '*' :: (cs ++ ds))
  /-- A character at which no comment is opened or closed. -/
  | char {c : Char} {cs : List Char} (hopen : ¬ ['/', '*'] <+: c :: cs)
      (hclose : ¬ ['*', '/'] <+: c :: cs) (h : Closes cs) : Closes (c :: cs)

/-- A gap; `final` says whether it stands at the end of the text. -/
inductive IsGap (final : Prop) : List Char → Prop
  /-- Nothing. -/
  | nil : IsGap final []
  /-- White space. -/
  | space {c : Char} {cs : List Char} (hc : c ∈ [' ', '\t', '\r', '\n']) (h : IsGap final cs) :
      IsGap final (c :: cs)
  /-- A comment that goes as far as the end of the line. -/
  | line {body cs : List Char} (hbody : '\n' ∉ body) (h : IsGap final cs) :
      IsGap final ('#' :: (body ++ '\n' :: cs))
  /-- A comment that goes as far as the end of the text. -/
  | lastLine {body : List Char} (hfinal : final) (hbody : '\n' ∉ body) : IsGap final ('#' :: body)
  /-- A block comment. -/
  | block {body cs : List Char} (hbody : Closes body) (h : IsGap final cs) :
      IsGap final ('/' :: '*' :: (body ++ cs))

/-! ## Block comments -/

/-- The text closes so many comments, one after the other. -/
def ClosesAll : Nat → List Char → Prop
  | 0, cs => cs = []
  | depth + 1, cs => ∃ body rest, cs = body ++ rest ∧ Closes body ∧ ClosesAll depth rest

/-- What is skipped behind open comments closes them. -/
lemma closesAll_closeComments {depth : Nat} {cs body rest : List Char}
    (h : closeComments depth cs = some (body, rest)) : ClosesAll depth body := by
  fun_induction closeComments depth cs generalizing body rest with
  | case1 cs =>
    cases h
    rfl
  | case2 => cases h
  | case3 depth cs ih =>
    obtain ⟨⟨body', rest'⟩, h', he⟩ := Option.map_eq_some_iff.1 h
    cases he
    obtain ⟨inner, _, rfl, hinner, outer, more, rfl, houter, hmore⟩ := ih h'
    refine ⟨'/' :: '*' :: (inner ++ outer), more, ?_, .nested hinner houter, hmore⟩
    simp
  | case4 depth cs ih =>
    obtain ⟨⟨body', rest'⟩, h', he⟩ := Option.map_eq_some_iff.1 h
    cases he
    exact ⟨['*', '/'], body', rfl, .close, ih h'⟩
  | case5 depth c cs hopen hclose ih =>
    obtain ⟨⟨body', rest'⟩, h', he⟩ := Option.map_eq_some_iff.1 h
    cases he
    obtain ⟨inner, more, rfl, hinner, hmore⟩ := ih h'
    have hcs : inner ++ (more ++ rest) = cs := by
      rw [← List.append_assoc]
      exact append_of_closeComments h'
    -- what begins at the character in the comment begins there in the text
    have hbegins {pair : List Char} (hpair : pair <+: c :: inner) : pair <+: c :: cs := by
      rw [← hcs]
      exact hpair.trans (List.prefix_append (c :: inner) (more ++ rest))
    refine ⟨c :: inner, more, rfl, .char (fun hpair => ?_) (fun hpair => ?_) hinner, hmore⟩
    · obtain ⟨ds, hds⟩ := hbegins hpair
      cases hds
      exact hopen ds rfl rfl
    · obtain ⟨ds, hds⟩ := hbegins hpair
      cases hds
      exact hclose ds rfl rfl

lemma closes_closeComments {cs body rest : List Char}
    (h : closeComments 1 cs = some (body, rest)) : Closes body := by
  obtain ⟨body', rest', rfl, hbody, rfl⟩ := closesAll_closeComments h
  rwa [List.append_nil]

lemma Closes.ne_nil {body : List Char} (h : Closes body) : body ≠ [] := by
  cases h <;> exact List.cons_ne_nil _ _

lemma closeComments_char {c : Char} {cs : List Char} (hopen : ¬ ['/', '*'] <+: c :: cs)
    (hclose : ¬ ['*', '/'] <+: c :: cs) (depth : Nat) :
    closeComments (depth + 1) (c :: cs) =
      (closeComments (depth + 1) cs).map fun (body, rest) => (c :: body, rest) := by
  rw [closeComments]
  · rintro ds rfl rfl
    exact hopen (List.prefix_append ['/', '*'] ds)
  · rintro ds rfl rfl
    exact hclose (List.prefix_append ['*', '/'] ds)

/-- What closes a comment closes the last one that is open, whatever stands behind. -/
lemma Closes.closeComments_append {body : List Char} (h : Closes body) (depth : Nat)
    (cs : List Char) : closeComments (depth + 1) (body ++ cs) =
      (closeComments depth cs).map fun (body', rest) => (body ++ body', rest) := by
  induction h generalizing depth cs with
  | close => rfl
  | @nested inner outer _ _ ih ih' =>
    have hopen : closeComments (depth + 1) ('/' :: '*' :: (inner ++ outer) ++ cs) =
        (closeComments (depth + 2) (inner ++ (outer ++ cs))).map
          fun (body', rest) => ('/' :: '*' :: body', rest) := by
      rw [List.cons_append, List.cons_append, List.append_assoc]
      rfl
    rw [hopen, ih, ih', Option.map_map, Option.map_map]
    simp [Function.comp_def]
  | @char c body hopen hclose h ih =>
    -- a comment that is opened or closed at the character would be so in the body
    obtain ⟨d, ds, rfl⟩ := List.exists_cons_of_ne_nil h.ne_nil
    have hopen' : ¬ ['/', '*'] <+: c :: (d :: ds ++ cs) := by simpa using hopen
    have hclose' : ¬ ['*', '/'] <+: c :: (d :: ds ++ cs) := by simpa using hclose
    have hchar := closeComments_char hopen' hclose' depth
    rw [List.cons_append, hchar, ih, Option.map_map]
    rfl

/-! ## Gaps -/

lemma isSpace_iff {c : Char} : isSpace c = true ↔ c ∈ [' ', '\t', '\r', '\n'] := by
  simp [isSpace, or_assoc]

lemma IsGap.mono {final final' : Prop} {gap : List Char} (h : IsGap final gap)
    (hfinal : final → final') : IsGap final' gap := by
  induction h with
  | nil => exact .nil
  | space hc _ ih => exact .space hc ih
  | line hbody _ ih => exact .line hbody ih
  | lastLine hlast hbody => exact .lastLine (hfinal hlast) hbody
  | block hbody _ ih => exact .block hbody ih

lemma IsGap.of_newline {final : Prop} {cs : List Char} (h : IsGap final ('\n' :: cs)) :
    IsGap final cs := by
  cases h with
  | space _ h => exact h

/-- What is skipped is a gap, unless it ends at a comment that is never closed. -/
theorem isGap_skipGap {cs : List Char} (h : (skipGap cs).closed = true) :
    IsGap ((skipGap cs).rest = []) (skipGap cs).skipped := by
  fun_induction skipGap cs with
  | case1 => exact .nil
  | case2 tail ih =>
    have hbody : '\n' ∉ tail.takeWhile (· ≠ '\n') := by
      intro hmem
      simpa using List.mem_takeWhile_imp hmem
    have hgap := ih h
    rcases hdrop : tail.dropWhile (· ≠ '\n') with _ | ⟨c, ds⟩
    · -- the comment goes as far as the end of the text
      rw [Gap.after, skipGap, List.append_nil]
      exact .lastLine rfl hbody
    · have hc : c = '\n' := by
        have hhead := List.head?_dropWhile_not (· ≠ '\n') tail
        rw [hdrop] at hhead
        simpa using hhead
      rw [hdrop, hc, skipGap_space (by rfl) ds] at hgap
      rw [hc, skipGap_space (by rfl) ds]
      exact .line hbody hgap.of_newline
  | case3 tail hopen => cases h
  | case4 tail body rest hbody ih =>
    have hblock := IsGap.block (closes_closeComments hbody) (ih h)
    simpa [Gap.after] using hblock
  | case5 c tail _ _ hspace ih => exact .space (isSpace_iff.1 hspace) (ih h)
  | case6 c tail => exact .nil

/-- No gap stands behind a gap. -/
lemma skipGap_rest {cs : List Char} (h : (skipGap cs).closed = true) :
    skipGap (skipGap cs).rest = ⟨[], (skipGap cs).rest, true⟩ := by
  fun_induction skipGap cs with
  | case1 => rw [skipGap]
  | case2 tail ih => exact ih h
  | case3 => cases h
  | case4 tail body rest _ ih => exact ih h
  | case5 c tail _ _ _ ih => exact ih h
  | case6 c tail hline hblock hspace =>
    rw [skipGap, if_neg hspace]
    · exact hline
    · exact hblock

lemma skipGap_line {body rest : List Char} (hbody : '\n' ∉ body)
    (hrest : ∀ c ∈ rest.head?, c = '\n') :
    skipGap ('#' :: (body ++ rest)) = (skipGap rest).after ('#' :: body) := by
  have hin : ∀ c ∈ body, decide (c ≠ '\n') = true := by
    intro c hc
    simpa using ne_of_mem_of_not_mem hc hbody
  have hend : ∀ c ∈ rest.head?, decide (c ≠ '\n') = false := by simpa using hrest
  rw [skipGap, takeWhile_append_of_head hin hend, dropWhile_append_of_head hin hend]

lemma skipGap_block {cs body rest : List Char} (h : closeComments 1 cs = some (body, rest)) :
    skipGap ('/' :: '*' :: cs) = (skipGap rest).after ('/' :: '*' :: body) := by
  rw [skipGap]
  split
  · rename_i hnone
    cases hnone.symm.trans h
  · rename_i hsome
    cases hsome.symm.trans h
    rfl

/-- A gap is skipped as far as it goes, and with it what is a gap behind it. -/
theorem IsGap.skipGap_append {final : Prop} {gap cs : List Char} (h : IsGap final gap)
    (hfinal : final → cs = []) : skipGap (gap ++ cs) = (skipGap cs).after gap := by
  induction h with
  | nil => rfl
  | space hc _ ih =>
    rw [List.cons_append, skipGap_space (isSpace_iff.2 hc), ih]
    rfl
  | @line body gap hbody _ ih =>
    rw [List.cons_append, List.append_assoc, List.cons_append, skipGap_line hbody (by simp),
      skipGap_space (by rfl), ih]
    simp [Gap.after]
  | lastLine hlast hbody =>
    rw [hfinal hlast, List.cons_append, skipGap_line hbody (by simp)]
  | @block body gap hbody _ ih =>
    have hclose : closeComments 1 (body ++ (gap ++ cs)) = some (body, gap ++ cs) := by
      simp [hbody.closeComments_append, closeComments]
    rw [List.cons_append, List.cons_append, List.append_assoc, skipGap_block hclose, ih]
    simp [Gap.after]

end Scriptlet.Token
