import Scriptlet.Proofs.Scanning.Tiling

/-!
# Block comments

A block comment goes from a `/*` to a `*/`, and between the two stand comments and characters at
which no comment is opened or closed.  The scanner knows nothing of this grammar: it counts how many
comments are open, two characters at a time where one is opened or closed.  Counting skips exactly
the comments of the grammar, and what it skips is the only comment that the text starts with
(`Scanner.skipComment_exact`).
-/

namespace Scriptlet.Token

mutual

/-- A block comment. -/
inductive IsComment : List Char → Prop
  /-- What is inside stands between `/*` and `*/`. -/
  | mk {body : List Char} (h : Inside body) : IsComment ('/' :: '*' :: (body ++ ['*', '/']))

/-- What may stand between the `/*` and the `*/` of a block comment. -/
inductive Inside : List Char → Prop
  /-- Nothing. -/
  | nil : Inside []
  /-- A comment, and more. -/
  | comment {cs ds : List Char} (h : IsComment cs) (h' : Inside ds) : Inside (cs ++ ds)
  /-- A character, and more.  With the `*/` that stands behind all this, no comment is opened or
  closed at the character. -/
  | char {c : Char} {cs : List Char} (hopen : ¬ ['/', '*'] <+: c :: (cs ++ ['*', '/']))
      (hclose : ¬ ['*', '/'] <+: c :: (cs ++ ['*', '/'])) (h : Inside cs) : Inside (c :: cs)

end

/-! ## Comments close what they open -/

mutual

/-- Behind its `/*`, a comment closes itself. -/
theorem IsComment.closes : {cs : List Char} → IsComment cs → ∃ ds, cs = '/' :: '*' :: ds ∧ Closes ds
  | _, .mk h => ⟨_, rfl, h.closes⟩

/-- With a `*/` behind it, what is inside of a comment closes it. -/
theorem Inside.closes : {cs : List Char} → Inside cs → Closes (cs ++ ['*', '/'])
  | _, .nil => .close
  | _, .comment h h' => by
    obtain ⟨ds, rfl, hds⟩ := h.closes
    simpa using Closes.nested hds h'.closes
  | _, .char hopen hclose h => .char hopen hclose h.closes

end

/-- What closes a comment is inside of it, but for its last two characters. -/
lemma Closes.inside {cs : List Char} (h : Closes cs) : ∃ ds, cs = ds ++ ['*', '/'] ∧ Inside ds := by
  induction h with
  | close => exact ⟨[], rfl, .nil⟩
  | nested _ _ ih ih' =>
    obtain ⟨ds, rfl, hds⟩ := ih
    obtain ⟨es, rfl, hes⟩ := ih'
    exact ⟨_, by simp, .comment (.mk hds) hes⟩
  | char hopen hclose _ ih =>
    obtain ⟨ds, rfl, hds⟩ := ih
    exact ⟨_, rfl, .char hopen hclose hds⟩

/-- Counting stops right behind a comment, whatever follows. -/
lemma IsComment.closeComments_append {comment : List Char} (h : IsComment comment)
    (rest : List Char) :
    ∃ body, comment = '/' :: '*' :: body ∧ closeComments 1 (body ++ rest) = some (body, rest) := by
  obtain ⟨body, rfl, hbody⟩ := h.closes
  refine ⟨body, rfl, ?_⟩
  rw [hbody.closeComments_append 0 rest]
  simp [closeComments]

/-- Counting stops nowhere but behind a comment. -/
lemma isComment_of_closeComments {tail body rest : List Char}
    (h : closeComments 1 tail = some (body, rest)) : IsComment ('/' :: '*' :: body) := by
  obtain ⟨cs, rfl, hcs⟩ := (closes_closeComments h).inside
  exact .mk hcs

namespace Scanner

/-- Skips the block comment that starts here, or finds that it is never closed. -/
def skipComment (s : Scanner) : Except LangError Scanner :=
  match closeComments 1 (s.rest.drop 2) with
  | some (body, rest) => .ok { s with position := s.position.advance ('/' :: '*' :: body), rest }
  | none =>
    .error ((LangError.located .unterminatedComment
      (some ⟨s.position, s.position.advance s.rest, s.source.file⟩)).attach s.source.text)

section

variable {s : Scanner} {tail : List Char}

lemma skipComment_of_some (hs : s.rest = '/' :: '*' :: tail) {body rest : List Char}
    (h : closeComments 1 tail = some (body, rest)) :
    s.skipComment = .ok { s with position := s.position.advance ('/' :: '*' :: body), rest } := by
  have hdrop : s.rest.drop 2 = tail := by rw [hs]; rfl
  rw [skipComment, hdrop, h]

lemma skipComment_of_none (hs : s.rest = '/' :: '*' :: tail) (h : closeComments 1 tail = none) :
    s.skipComment = .error ((LangError.located .unterminatedComment
      (some ⟨s.position, s.position.advance s.rest, s.source.file⟩)).attach s.source.text) := by
  have hdrop : s.rest.drop 2 = tail := by rw [hs]; rfl
  rw [skipComment, hdrop, h]

/-- Reading on from a comment is reading on from behind it, unless it is never closed. -/
lemma next_of_comment (hs : s.rest = '/' :: '*' :: tail) :
    s.next = match s.skipComment with
      | .ok s' => s'.next
      | .error e => (.error e, { s with position := s.position.advance s.rest, rest := [] }) := by
  cases h : closeComments 1 tail with
  | some split =>
    obtain ⟨body, rest⟩ := split
    have hgap : skipGap s.rest = (skipGap rest).after ('/' :: '*' :: body) := by
      rw [hs, skipGap_block h]
    rw [skipComment_of_some hs h]
    simp only [next, hgap, Gap.after, Position.advance_append]
  | none =>
    have hgap : skipGap s.rest = ⟨[], s.rest, false⟩ := by
      rw [hs, skipGap]
      split
      · rfl
      · rename_i hsome
        cases h.symm.trans hsome
    rw [skipComment_of_none hs h]
    simp only [next, hgap, Bool.false_eq_true, if_false, Position.advance_nil]

end

/-- **Counting skips the block comments of the grammar.**  Where a `/*` begins, skipping succeeds if
and only if the text from there on starts with a comment; there is one such comment, and skipping
stops right behind it.  If there is none, the comment is reported as open, from its `/*` to the end
of the text. -/
theorem skipComment_exact {s : Scanner} {done tail : List Char} (h : s.Behind done)
    (hs : s.rest = '/' :: '*' :: tail) :
    ((∃ s', s.skipComment = .ok s') ↔
      ∃ comment rest, s.rest = comment ++ rest ∧ IsComment comment) ∧
    (∀ comment rest, s.rest = comment ++ rest → IsComment comment →
      let behind : Scanner := ⟨s.source, .behind (done ++ comment), rest, s.before⟩
      s.skipComment = .ok behind ∧ s.next = behind.next ∧
        ∀ comment' rest', s.rest = comment' ++ rest' → IsComment comment' →
          comment' = comment) ∧
    ((¬ ∃ comment rest, s.rest = comment ++ rest ∧ IsComment comment) →
      ∃ e, s.skipComment = .error e ∧ e.code = "E004" ∧
        e.span = some ⟨.behind done, .behind s.source.text.toList, s.source.file⟩ ∧
        s.next = (.error e, ⟨s.source, .behind s.source.text.toList, [], s.before⟩)) := by
  have hskipped : ∀ comment rest, s.rest = comment ++ rest → IsComment comment →
      s.skipComment = .ok ⟨s.source, .behind (done ++ comment), rest, s.before⟩ := by
    intro comment rest hsplit hcomment
    obtain ⟨body, rfl, hclose⟩ := hcomment.closeComments_append rest
    rw [skipComment_of_some hsplit hclose, advance_of_behind h]
  refine ⟨⟨?_, ?_⟩, ?_, ?_⟩
  · rintro ⟨s', hs'⟩
    cases hclose : closeComments 1 tail with
    | some split =>
      refine ⟨'/' :: '*' :: split.1, split.2, ?_, isComment_of_closeComments hclose⟩
      rw [hs, ← append_of_closeComments hclose]
      rfl
    | none =>
      rw [skipComment_of_none hs hclose] at hs'
      cases hs'
  · rintro ⟨comment, rest, hsplit, hcomment⟩
    exact ⟨_, hskipped comment rest hsplit hcomment⟩
  · intro comment rest hsplit hcomment
    have hskip := hskipped comment rest hsplit hcomment
    refine ⟨hskip, by rw [next_of_comment hs, hskip], ?_⟩
    intro comment' rest' hsplit' hcomment'
    -- both comments are what is skipped, so the same text is left behind them
    have hbehind := Except.ok.inj ((hskipped comment' rest' hsplit' hcomment').symm.trans hskip)
    obtain rfl : rest' = rest := congrArg Scanner.rest hbehind
    exact List.append_cancel_right (hsplit'.symm.trans hsplit)
  · intro hnone
    have hclose : closeComments 1 tail = none := by
      refine Option.eq_none_iff_forall_ne_some.2 fun split hsplit => hnone ?_
      refine ⟨'/' :: '*' :: split.1, split.2, ?_, isComment_of_closeComments hsplit⟩
      rw [hs, ← append_of_closeComments hsplit]
      rfl
    have hend : s.position.advance s.rest = .behind s.source.text.toList := by
      rw [advance_of_behind h, h.text]
    have hskip := skipComment_of_none hs hclose
    refine ⟨_, hskip, ?_, ?_, ?_⟩
    · rw [LangError.code, LangError.cause_attach]
      rfl
    · rw [LangError.span_attach, hend, h.position]
      rfl
    · rw [next_of_comment hs, hskip, hend]

/-- Delimiters that share characters are told apart from the left: behind `/*` there is a `/*` and a
`/` that closes nothing. -/
theorem skipComment_exact_overlapping :
    let source : Source := ⟨"a/*/*/ */*/b", none⟩
    let s : Scanner := ⟨source, .behind ['a'], "/*/*/ */*/b".toList, some .identifier⟩
    s.Behind ['a'] ∧ IsComment "/*/*/ */*/".toList ∧
      s.skipComment = .ok ⟨source, .behind "a/*/*/ */*/".toList, ['b'], some .identifier⟩ := by
  intro source s
  have hs : s.Behind ['a'] := ⟨by decide, rfl⟩
  have hinner : IsComment "/*/ */".toList :=
    @IsComment.mk ['/', ' '] (.char (by decide) (by decide) (.char (by decide) (by decide) .nil))
  have houter : IsComment "/*/*/ */*/".toList := .mk (.comment hinner .nil)
  exact ⟨hs, houter, ((skipComment_exact hs rfl).2.1 _ ['b'] rfl houter).1⟩

end Scanner

end Scriptlet.Token
