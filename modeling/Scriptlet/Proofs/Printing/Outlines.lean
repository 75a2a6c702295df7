import Scriptlet.Expr.Outline
import Scriptlet.Proofs.Grammar.Nodes
import Scriptlet.Proofs.Printing.Legible
import Scriptlet.Proofs.Printing.Reread

/-!
# Outlines tell programs apart

The outline of a tree that was read from a text shows all that the tree says, and where it ends
(`Expr.tells_outline`), since each line of it shows what it is a line of: of a node, of a part of a
node, of a parameter, or the end of a list.  So programs have the same outline exactly if they say
the same (`Expr.programOutline_eq_iff`).
-/

namespace Scriptlet

open Token

/-! ## Legible trees -/

/-- The token is shown in a single line, as what it carries. -/
structure Token.Legible (t : Token) : Prop where
  /-- It is shown as what it carries. -/
  shown : ShownAs t.kind t.payload t.text
  /-- It is shown in a single line. -/
  line : '\n' ∉ t.text.toList

/-- The parameter is shown in a single line, with a space behind its name and none in it. -/
structure Param.Legible (p : Param) : Prop where
  /-- Its name has no space. -/
  name : ' ' ∉ p.name.toList
  /-- Its name is in a single line. -/
  line : '\n' ∉ p.name.toList
  /-- Its type is a type. -/
  kind : p.typeToken.kind = .typeName
  /-- Its type can be told. -/
  type : p.typeToken.Legible

/-- What the node itself says can be told from the lines for it. -/
def Expr.Legible : Expr → Prop
  | leaf t _ => t.Legible
  | call name _ _ => '\n' ∉ name.toList
  | define name params _ returnType _ => '\n' ∉ name.toList ∧ '\n' ∉ returnType.toList ∧
      Param.inOrder params = params ∧ ∀ p ∈ params, p.Legible
  | _ => True

namespace Expr

/-! ## Lines -/

section Lines

variable {k : Nat} {s t : String}

lemma indented_inj : indented k s = indented k t ↔ s = t := String.append_right_inj _

lemma indented_succ (k : Nat) (s : String) : indented (k + 1) s = indented k ("  " ++ s) := by
  rw [← String.toList_inj]
  simp [indented, Nat.mul_succ, List.replicate_add]

/-- A line that starts with no space is not one that is indented more. -/
lemma indented_succ_ne (hs : s.toList.head? ≠ some ' ') : indented (k + 1) t ≠ indented k s := by
  rw [indented_succ, Ne, indented_inj]
  rintro rfl
  simp at hs

lemma newline_mem_indented : '\n' ∈ (indented k s).toList ↔ '\n' ∈ s.toList := by
  simp [indented]

lemma indented_ne_empty (hs : s ≠ "") : indented k s ≠ "" := by
  simp [indented, hs]

end Lines

/-- The line of a leaf. -/
def leafLine (t : Token) : String := "Leaf " ++ t.kind.name ++ " " ++ t.text

/-- The first line of a tree. -/
def title : Expr → String
  | leaf t _ => leafLine t
  | assign .. | binary .. => "BinaryExpr"
  | call .. => "FnCall"
  | define .. => "FnDef"
  | ret .. => "Return"
  | hole => "Expr"

lemma outline_eq_cons (k : Nat) (e : Expr) : ∃ rest, outline k e = indented k e.title :: rest := by
  cases e <;> simp [outline, title, leafLine]

lemma name_inj {k k' : Kind} (h : k.name = k'.name) : k = k' := by
  have hall : ∀ k ∈ Kind.all, ∀ k' ∈ Kind.all, k.name = k'.name → k = k' := by decide
  exact hall k k.mem_all k' k'.mem_all h

lemma space_not_mem_name (k : Kind) : ' ' ∉ k.name.toList := by cases k <;> decide

/-- The line of a leaf shows what its token says. -/
lemma leafLine_inj {t u : Token} (ht : t.Legible) (hu : u.Legible) :
    leafLine t = leafLine u ↔ t.bare = u.bare := by
  have hline (t : Token) :
      (leafLine t).toList = "Leaf ".toList ++ (t.kind.name.toList ++ ' ' :: t.text.toList) := by
    simp [leafLine]
  rw [← String.toList_inj, hline, hline, List.append_cancel_left_eq,
    append_cons_iff (space_not_mem_name _) (space_not_mem_name _), String.toList_inj,
    String.toList_inj, Token.bare, Token.bare, Token.mk.injEq]
  constructor
  · rintro ⟨hkind, htext⟩
    have hk := name_inj hkind
    refine ⟨hk, ?_, rfl, rfl⟩
    exact (ht.shown.text_eq_iff (hk ▸ hu.shown)).1 htext
  · rintro ⟨hkind, hpayload, -, -⟩
    exact ⟨by rw [hkind], (ht.shown.text_eq_iff (hkind ▸ hu.shown)).2 hpayload⟩

/-- The line of a parameter shows what the parameter says. -/
lemma paramLine_inj {p q : Param} (hp : p.Legible) (hq : q.Legible) :
    paramLine p = paramLine q ↔ p.bare = q.bare := by
  have hline (p : Param) : (paramLine p).toList = (toString p.index).toList ++ ':' :: (' ' ::
      (p.name.toList ++ ' ' :: p.typeToken.text.toList)) := by
    simp [paramLine]
  have hcolon (n : Int) : ':' ∉ (toString n).toList := not_mem_intText (by decide) (by decide)
  have htype : p.typeToken.text = q.typeToken.text ↔ p.typeToken.bare = q.typeToken.bare := by
    have hshown := hq.type.shown
    rw [hq.kind, ← hp.kind] at hshown
    rw [hp.type.shown.text_eq_iff hshown]
    simp [Token.bare, hp.kind, hq.kind]
  rw [← String.toList_inj, hline, hline, append_cons_iff (hcolon _) (hcolon _), List.cons.injEq,
    append_cons_iff hp.name hq.name, String.toList_inj, String.toList_inj, String.toList_inj,
    intText_inj, htype]
  simp [Param.bare]

/-! ## Trees -/

section Trees

variable {e f : Expr} {es fs : List Expr}

/-- Trees that start with different lines are told apart by them, if they do not say the same. -/
lemma tells_of_title_ne (k : Nat) (h : e.title ≠ f.title) (hbare : e.bare ≠ f.bare) :
    Tells (outline k) bare e f := by
  intro r r'
  obtain ⟨xs, hxs⟩ := outline_eq_cons k e
  obtain ⟨ys, hys⟩ := outline_eq_cons k f
  rw [hxs, hys, List.cons_append, List.cons_append, List.cons.injEq, indented_inj]
  exact ⟨fun h' => absurd h'.1 h, fun h' => absurd h'.1 hbare⟩

lemma leafLine_ne {t : Token} {s : String} (hs : s.toList.head? ≠ some 'L') : leafLine t ≠ s := by
  rintro rfl
  simp [leafLine] at hs

/-- The trees of a list are indented more than the line that ends it. -/
lemma outlines_append_cons_iff {k : Nat} (stop : String) (hstop : stop.toList.head? ≠ some ' ')
    (h : ∀ e ∈ es, ∀ f ∈ fs, Tells (outline (k + 1)) bare e f) (r r' : List String) :
    outlines (k + 1) es ++ indented k stop :: r = outlines (k + 1) fs ++ indented k stop :: r' ↔
      bares es = bares fs ∧ r = r' := by
  have hoff (e : Expr) : StartsOff (outline (k + 1)) (indented k stop) e := by
    obtain ⟨xs, hxs⟩ := outline_eq_cons (k + 1) e
    exact ⟨_, xs, hxs, indented_succ_ne hstop⟩
  rw [outlines_eq_flatMap, outlines_eq_flatMap, bares_eq_map, bares_eq_map]
  exact flatMap_append_cons_iff h (fun e _ => hoff e) (fun f _ => hoff f) r r'

/-- So are parameters. -/
lemma paramLines_append_cons_iff {ps qs : List Param} {k : Nat} (stop : String)
    (hstop : stop.toList.head? ≠ some ' ') (hps : ∀ p ∈ ps, p.Legible) (hqs : ∀ q ∈ qs, q.Legible)
    (r r' : List String) :
    (ps.map fun p => indented (k + 1) (paramLine p)) ++ indented k stop :: r =
        (qs.map fun q => indented (k + 1) (paramLine q)) ++ indented k stop :: r' ↔
      ps.map Param.bare = qs.map Param.bare ∧ r = r' := by
  have htells : ∀ p ∈ ps, ∀ q ∈ qs,
      Tells (fun p => [indented (k + 1) (paramLine p)]) Param.bare p q := by
    intro p hp q hq r r'
    rw [List.singleton_append, List.singleton_append, List.cons.injEq, indented_inj,
      paramLine_inj (hps p hp) (hqs q hq)]
  have hoff (p : Param) :
      StartsOff (fun p => [indented (k + 1) (paramLine p)]) (indented k stop) p :=
    ⟨_, [], rfl, indented_succ_ne hstop⟩
  rw [List.map_eq_flatMap, List.map_eq_flatMap]
  exact flatMap_append_cons_iff htells (fun p _ => hoff p) (fun q _ => hoff q) r r'

section Nodes

variable {k : Nat} {inner inner' left left' right right' : Expr} {s s' : Option Span}

lemma tells_leaf {t u : Token} (ht : t.Legible) (hu : u.Legible) :
    Tells (outline k) bare (leaf t s) (leaf u s') := by
  intro r r'
  have hline : indented k (leafLine t) :: r = indented k (leafLine u) :: r' ↔
      t.bare = u.bare ∧ r = r' := by
    rw [List.cons.injEq, indented_inj, leafLine_inj ht hu]
  rw [outline, outline, bare, bare, leaf.injEq, eq_self_iff_true, and_true]
  exact hline

lemma tells_assign (hl : Tells (outline (k + 2)) bare left left')
    (hr : Tells (outline (k + 2)) bare right right') :
    Tells (outline k) bare (assign left right s) (assign left' right' s') := by
  intro r r'
  simp only [outline, List.append_assoc, List.cons_append, List.nil_append, List.cons.injEq,
    true_and, hl _ _, hr _ _, bare, assign.injEq, and_true, and_assoc]

lemma symbol_inj {op op' : Operator} : op.symbol = op'.symbol ↔ op = op' := by
  cases op <;> cases op' <;> decide

lemma tells_binary {op op' : Operator} (hl : Tells (outline (k + 2)) bare left left')
    (hr : Tells (outline (k + 2)) bare right right') :
    Tells (outline k) bare (binary op left right s) (binary op' left' right' s') := by
  intro r r'
  simp only [outline, List.append_assoc, List.cons_append, List.nil_append, List.cons.injEq,
    true_and, indented_inj, String.append_right_inj, symbol_inj, hl _ _, hr _ _, bare,
    binary.injEq, and_true, and_assoc]

/-- An assignment has the first line of an operator, but not the second. -/
lemma tells_assign_binary {op : Operator} :
    Tells (outline k) bare (assign left right s) (binary op left' right' s') := by
  intro r r'
  have hop : ":=" ≠ op.symbol := by cases op <;> decide
  have hline : "op: :=" ≠ "op: " ++ op.symbol := fun h => hop ((String.append_right_inj "op: ").1 h)
  simp only [outline, List.cons_append, List.cons.injEq, indented_inj, hline, bare, true_and,
    false_and, reduceCtorEq]

lemma tells_ret (h : Tells (outline (k + 2)) bare inner inner') :
    Tells (outline k) bare (ret inner s) (ret inner' s') := by
  intro r r'
  simp only [outline, List.cons_append, List.nil_append, List.cons.injEq, true_and, h _ _, bare,
    ret.injEq, and_true]

lemma tells_call {name name' : String}
    (h : ∀ e ∈ es, ∀ f ∈ fs, Tells (outline (k + 2)) bare e f) :
    Tells (outline k) bare (call name es s) (call name' fs s') := by
  intro r r'
  simp only [outline, List.append_assoc, List.cons_append, List.nil_append, List.cons.injEq,
    true_and, indented_inj, String.append_right_inj, outlines_append_cons_iff "]" (by decide) h,
    bare, call.injEq, and_true, and_assoc]

lemma tells_define {name name' returnType returnType' : String} {ps qs : List Param}
    (hps : Param.inOrder ps = ps) (hqs : Param.inOrder qs = qs)
    (hlp : ∀ p ∈ ps, p.Legible) (hlq : ∀ q ∈ qs, q.Legible)
    (h : ∀ e ∈ es, ∀ f ∈ fs, Tells (outline (k + 2)) bare e f) :
    Tells (outline k) bare (define name ps es returnType s)
      (define name' qs fs returnType' s') := by
  intro r r'
  simp only [outline, hps, hqs, List.append_assoc, List.cons_append, List.nil_append,
    List.cons.injEq, true_and, indented_inj, String.append_right_inj,
    paramLines_append_cons_iff "body: [" (by decide) hlp hlq,
    outlines_append_cons_iff "]" (by decide) h, bare, define.injEq, and_true, and_assoc]

end Nodes

/-- Each node of the tree can be told from the lines for it. -/
def LegibleTree (e : Expr) : Prop := ∀ n ∈ e.nodes, n.Legible

lemma LegibleTree.node (h : e.LegibleTree) : e.Legible := h e e.self_mem_nodes

lemma LegibleTree.of_mem {n : Expr} (h : e.LegibleTree) (hn : n ∈ e.nodes) : n.LegibleTree :=
  fun m hm => h m (nodes_subset hn hm)

lemma legibleTree_assign {left right : Expr} {s : Option Span} :
    (assign left right s).LegibleTree ↔ left.LegibleTree ∧ right.LegibleTree := by
  simp [LegibleTree, nodes, Legible, or_imp, forall_and]

lemma legibleTree_binary {op : Operator} {left right : Expr} {s : Option Span} :
    (binary op left right s).LegibleTree ↔ left.LegibleTree ∧ right.LegibleTree := by
  simp [LegibleTree, nodes, Legible, or_imp, forall_and]

lemma legibleTree_ret {inner : Expr} {s : Option Span} :
    (ret inner s).LegibleTree ↔ inner.LegibleTree := by
  simp [LegibleTree, nodes, Legible]

lemma LegibleTree.of_mem_args {name : String} {s : Option Span} (h : (call name es s).LegibleTree) :
    ∀ a ∈ es, a.LegibleTree :=
  fun _ ha => h.of_mem (List.mem_cons_of_mem _ (mem_allNodes.2 ⟨_, ha, self_mem_nodes _⟩))

lemma LegibleTree.of_mem_body {name returnType : String} {ps : List Param} {s : Option Span}
    (h : (define name ps es returnType s).LegibleTree) : ∀ b ∈ es, b.LegibleTree :=
  fun _ hb => h.of_mem (List.mem_cons_of_mem _ (mem_allNodes.2 ⟨_, hb, self_mem_nodes _⟩))

/-- **The outline of a tree shows what the tree says, and where it ends.** -/
theorem tells_outline (he : e.LegibleTree) (hf : f.LegibleTree) (k : Nat) :
    Tells (outline k) bare e f := by
  induction e using Expr.induction generalizing f k with
  | leaf t s =>
    cases f with
    | leaf => exact tells_leaf he.node hf.node
    | _ => exact tells_of_title_ne k (leafLine_ne (by simp [title])) (by simp [bare])
  | assign left right s ihl ihr =>
    cases f with
    | leaf => exact tells_of_title_ne k (leafLine_ne (by simp [title])).symm (by simp [bare])
    | assign =>
      obtain ⟨hl, hr⟩ := legibleTree_assign.1 he
      obtain ⟨hl', hr'⟩ := legibleTree_assign.1 hf
      exact tells_assign (ihl hl hl' _) (ihr hr hr' _)
    | binary => exact tells_assign_binary
    | _ => exact tells_of_title_ne k (by simp [title]) (by simp [bare])
  | binary op left right s ihl ihr =>
    cases f with
    | leaf => exact tells_of_title_ne k (leafLine_ne (by simp [title])).symm (by simp [bare])
    | assign => exact tells_assign_binary.symm
    | binary =>
      obtain ⟨hl, hr⟩ := legibleTree_binary.1 he
      obtain ⟨hl', hr'⟩ := legibleTree_binary.1 hf
      exact tells_binary (ihl hl hl' _) (ihr hr hr' _)
    | _ => exact tells_of_title_ne k (by simp [title]) (by simp [bare])
  | call name args s ih =>
    cases f with
    | leaf => exact tells_of_title_ne k (leafLine_ne (by simp [title])).symm (by simp [bare])
    | call =>
      exact tells_call fun a ha b hb => ih a ha (he.of_mem_args a ha) (hf.of_mem_args b hb) _
    | _ => exact tells_of_title_ne k (by simp [title]) (by simp [bare])
  | define name ps body returnType s ih =>
    cases f with
    | leaf => exact tells_of_title_ne k (leafLine_ne (by simp [title])).symm (by simp [bare])
    | define =>
      obtain ⟨-, -, hps, hlp⟩ := he.node
      obtain ⟨-, -, hqs, hlq⟩ := hf.node
      exact tells_define hps hqs hlp hlq fun a ha b hb =>
        ih a ha (he.of_mem_body a ha) (hf.of_mem_body b hb) _
    | _ => exact tells_of_title_ne k (by simp [title]) (by simp [bare])
  | ret inner s ih =>
    cases f with
    | leaf => exact tells_of_title_ne k (leafLine_ne (by simp [title])).symm (by simp [bare])
    | ret => exact tells_ret (ih (legibleTree_ret.1 he) (legibleTree_ret.1 hf) _)
    | _ => exact tells_of_title_ne k (by simp [title]) (by simp [bare])
  | hole =>
    cases f with
    | leaf => exact tells_of_title_ne k (leafLine_ne (by simp [title])).symm (by simp [bare])
    | hole =>
      intro r r'
      simp [outline]
    | _ => exact tells_of_title_ne k (by simp [title]) (by simp [bare])

/-! ## The lines of an outline -/

lemma isLine_indented {s : String} (k : Nat) (h : Text.IsLine s) : Text.IsLine (indented k s) :=
  ⟨fun hmem => h.single (newline_mem_indented.1 hmem), indented_ne_empty h.ne_empty⟩

lemma isLine_append {s t : String} (hs : Text.IsLine s) (ht : '\n' ∉ t.toList) :
    Text.IsLine (s ++ t) :=
  ⟨by simp [hs.single, ht], by simp [hs.ne_empty]⟩

lemma isLine_leafLine {t : Token} (h : t.Legible) : Text.IsLine (leafLine t) := by
  have hkind : Text.IsLine ("Leaf " ++ t.kind.name) :=
    isLine_append (by decide) t.kind.newline_not_mem_name
  exact isLine_append (isLine_append hkind (by decide)) h.line

lemma isLine_paramLine {p : Param} (h : p.Legible) : Text.IsLine (paramLine p) := by
  have hindex : Text.IsLine (toString p.index ++ ": ") := by
    refine ⟨?_, by simp⟩
    rw [String.toList_append, List.mem_append, not_or]
    exact ⟨newline_not_mem_intText _, by decide⟩
  exact isLine_append (isLine_append (isLine_append hindex h.line) (by decide)) h.type.line

/-- The lines of an outline are single lines, and none is empty. -/
lemma isLine_of_mem_outline (he : e.LegibleTree) (k : Nat) :
    ∀ line ∈ outline k e, Text.IsLine line := by
  -- a line is the same for all nodes of a kind, or it ends with what the node says
  have hfixed {s : String} {k : Nat} (hs : Text.IsLine s) : Text.IsLine (indented k s) :=
    isLine_indented k hs
  have hnamed {s t : String} {k : Nat} (hs : Text.IsLine s) (ht : '\n' ∉ t.toList) :
      Text.IsLine (indented k (s ++ t)) := isLine_indented k (isLine_append hs ht)
  induction e using Expr.induction generalizing k with
  | leaf t s => exact List.forall_mem_singleton.2 (hfixed (isLine_leafLine he.node))
  | assign left right s ihl ihr =>
    obtain ⟨hl, hr⟩ := legibleTree_assign.1 he
    simp only [outline, List.append_assoc, List.cons_append, List.nil_append,
      List.forall_mem_append, List.forall_mem_cons]
    exact ⟨hfixed (by decide), hfixed (by decide), hfixed (by decide), ihl hl _,
      hfixed (by decide), ihr hr _⟩
  | binary op left right s ihl ihr =>
    obtain ⟨hl, hr⟩ := legibleTree_binary.1 he
    have hop : '\n' ∉ op.symbol.toList := by cases op <;> decide
    simp only [outline, List.append_assoc, List.cons_append, List.nil_append,
      List.forall_mem_append, List.forall_mem_cons]
    exact ⟨hfixed (by decide), hnamed (by decide) hop, hfixed (by decide), ihl hl _,
      hfixed (by decide), ihr hr _⟩
  | call name args s ih =>
    have hargs : ∀ line ∈ outlines (k + 2) args, Text.IsLine line := by
      rw [outlines_eq_flatMap, List.forall_mem_flatMap]
      exact fun a ha => ih a ha (he.of_mem_args a ha) _
    simp only [outline, List.cons_append, List.nil_append, List.forall_mem_append,
      List.forall_mem_cons]
    exact ⟨hfixed (by decide), hnamed (by decide) he.node, hfixed (by decide), hargs,
      hfixed (by decide), List.forall_mem_nil _⟩
  | define name ps body returnType s ih =>
    obtain ⟨hname, htype, hps, hlp⟩ := he.node
    have hbody : ∀ line ∈ outlines (k + 2) body, Text.IsLine line := by
      rw [outlines_eq_flatMap, List.forall_mem_flatMap]
      exact fun b hb => ih b hb (he.of_mem_body b hb) _
    have hparams : ∀ line ∈ ps.map fun p => indented (k + 2) (paramLine p), Text.IsLine line :=
      List.forall_mem_map.2 fun p hp => hfixed (isLine_paramLine (hlp p hp))
    simp only [outline, hps, List.append_assoc, List.cons_append, List.nil_append,
      List.forall_mem_append, List.forall_mem_cons]
    exact ⟨hfixed (by decide), hnamed (by decide) hname, hfixed (by decide), hparams,
      hfixed (by decide), hbody, hfixed (by decide), hnamed (by decide) htype,
      List.forall_mem_nil _⟩
  | ret inner s ih =>
    simp only [outline, List.cons_append, List.nil_append, List.forall_mem_cons]
    exact ⟨hfixed (by decide), hfixed (by decide), ih (legibleTree_ret.1 he) _⟩
  | hole => exact List.forall_mem_singleton.2 (hfixed (by decide))

/-- The outline of a program shows what the program says. -/
lemma programOutline_inj (hes : ∀ e ∈ es, e.LegibleTree) (hfs : ∀ f ∈ fs, f.LegibleTree) :
    programOutline es = programOutline fs ↔ bares es = bares fs := by
  have hlines {es : List Expr} (hes : ∀ e ∈ es, e.LegibleTree) :
      ∀ line ∈ outlines 0 es, Text.IsLine line := by
    rw [outlines_eq_flatMap, List.forall_mem_flatMap]
    exact fun e he => isLine_of_mem_outline (hes e he) 0
  -- no tree starts with an empty line, so it can be taken for the end of the program
  have hoff {es : List Expr} (hes : ∀ e ∈ es, e.LegibleTree) :
      ∀ e ∈ es, StartsOff (outline 0) "" e := by
    intro e he
    obtain ⟨xs, hxs⟩ := outline_eq_cons 0 e
    exact ⟨_, xs, hxs, (isLine_of_mem_outline (hes e he) 0 _ (hxs ▸ List.mem_cons_self)).ne_empty⟩
  have htells := flatMap_append_cons_iff
    (fun e he f hf => tells_outline (hes e he) (hfs f hf) 0) (hoff hes) (hoff hfs) [] []
  rw [programOutline, programOutline, intercalate_newline_inj (hlines hes) (hlines hfs),
    outlines_eq_flatMap, outlines_eq_flatMap, bares_eq_map, bares_eq_map]
  simpa using htells

end Trees

end Expr

/-! ## Trees of texts -/

namespace Grammar

section

variable {ts : List Token} {n : Expr} {es : List Expr}

lemma legible_of_lexed {t : Token} (h : Lexed t) : t.Legible :=
  ⟨h.shownAs, h.newline_not_mem_text⟩

lemma legible_asError {t : Token} (h : Lexed t) (ht : isStray t.kind = true) :
    t.asError.Legible := by
  refine ⟨h.shownAs_asError ht, ?_⟩
  rw [h.text_asError ht]
  exact h.newline_not_mem_text

/-- What a name carries is a word. -/
lemma isWord_display {t : Token} (h : Lexed t) (ht : t.kind = .identifier) :
    IsWord t.payload.display.toList := by
  cases h with
  | @word w span hw =>
    rw [← text_eq_display (.inl ht), text_ofWord]
    exact hw
  | int | string => cases ht
  | symbol h =>
    have hall : ∀ x ∈ symbols, x.2 ≠ .identifier := by decide
    exact absurd ht (hall _ h)

lemma Params.legible {m : Nat} {ps : List Param} (h : Params m ts ps) (hl : ∀ t ∈ ts, Lexed t) :
    ∀ p ∈ ps, p.Legible := by
  have hparam {m : Nat} {type name : Token} (ht : type.kind = .typeName)
      (hn : name.kind = .identifier) (hlt : Lexed type) (hln : Lexed name) :
      (Param.ofTokens m type name).Legible := by
    have hword := isWord_display hln hn
    exact ⟨hword.not_mem (by decide +kernel), hword.newline_not_mem, ht, legible_of_lexed hlt⟩
  induction h with
  | last ht hn =>
    exact List.forall_mem_singleton.2 (hparam ht hn (hl _ (by simp)) (hl _ (by simp)))
  | more ht hn _ _ ih =>
    refine List.forall_mem_cons.2 ⟨hparam ht hn (hl _ (by simp)) (hl _ (by simp)), ?_⟩
    exact ih fun t ht => hl t (by simp [ht])

lemma ReturnClause.newline_not_mem {r : String} (h : ReturnClause ts r) (hl : ∀ t ∈ ts, Lexed t) :
    '\n' ∉ r.toList := by
  cases h with
  | none => decide
  | some ha ht =>
    rw [← text_eq_display (.inr (.inl ht))]
    exact (hl _ (by simp)).newline_not_mem_text

lemma Head.legible {head : Header} (h : Head ts head) (hl : ∀ t ∈ ts, Lexed t)
    (es : List Expr) (s : Option Span) :
    (Expr.define head.name head.params es head.returnType s).Legible := by
  obtain ⟨hn, -, hp, -, hu, -⟩ := h
  refine ⟨(isWord_display (hl _ (by simp)) hn).newline_not_mem,
    hu.newline_not_mem fun t ht => hl t (by simp [ht]), ?_⟩
  cases hp with
  | none => exact ⟨List.mergeSort_nil, List.forall_mem_nil _⟩
  | some hp => exact ⟨hp.inOrder, hp.legible fun t ht => hl t (by simp [ht])⟩

/-- What a node of the tree of a text says can be told from the lines for it. -/
lemma Derives.legible (h : Derives (.expr n) ts) (hl : ∀ t ∈ ts, Lexed t) : n.Legible := by
  cases h with
  | ret | assign => trivial
  | callEmpty ht | call ht => exact (isWord_display (hl _ (by simp)) ht).newline_not_mem
  | @chain t u ts e c => cases c <;> trivial
  | operand => exact legible_of_lexed (hl _ (by simp))
  | stray ht => exact legible_asError (hl _ (by simp)) ht
  | define _ hh => exact hh.legible (fun t ht => hl t (by simp [ht])) _ _

lemma Derives.legibleTree (h : Derives (.program es) ts) (hl : ∀ t ∈ ts, Lexed t) :
    ∀ e ∈ es, e.LegibleTree := by
  intro e he n hn
  obtain ⟨vs, hvs, hd⟩ := h.holds n (Expr.mem_allNodes.2 ⟨e, he, hn⟩)
  exact hd.legible fun t ht => hl t (hvs.subset ht)

end

end Grammar

namespace Expr

open Grammar

/-- **The outline identifies the program.**  The outlines of two programs that were read from texts
are the same exactly if the programs say the same. -/
theorem programOutline_eq_iff {source source' : Source} {es fs : List Expr}
    (h : source.statements.2 = .ok es) (h' : source'.statements.2 = .ok fs) :
    programOutline es = programOutline fs ↔ allSame es fs = true := by
  obtain ⟨ts, -, -, -, hts, hd⟩ := Source.derives_of_statements h
  obtain ⟨us, -, -, -, hus, hd'⟩ := Source.derives_of_statements h'
  rw [allSame_iff]
  exact programOutline_inj (hd.legibleTree hts) (hd'.legibleTree hus)

/-- Layout and quotes do not show, but it shows whether a plus sign is an error leaf or a string. -/
theorem programOutline_eq_iff_plus :
    ∃ es fs gs, (Source.mk "f(+, 'a');" none).statements.2 = .ok es ∧
      (Source.mk "f ( + ,\n\"a\" ) ;" none).statements.2 = .ok fs ∧
      (Source.mk "f('+', 'a');" none).statements.2 = .ok gs ∧
      programOutline es = programOutline fs ∧ programOutline es ≠ programOutline gs := by
  have hsame : (do
      let es ← (Source.mk "f(+, 'a');" none).statements.2.toOption
      let fs ← (Source.mk "f ( + ,\n\"a\" ) ;" none).statements.2.toOption
      let gs ← (Source.mk "f('+', 'a');" none).statements.2.toOption
      return (allSame es fs, allSame es gs)) = some (true, false) := by decide +kernel
  cases hes : (Source.mk "f(+, 'a');" none).statements.2 with
  | error failure => simp [hes, Except.toOption] at hsame
  | ok es =>
  cases hfs : (Source.mk "f ( + ,\n\"a\" ) ;" none).statements.2 with
  | error failure => simp [hes, hfs, Except.toOption] at hsame
  | ok fs =>
  cases hgs : (Source.mk "f('+', 'a');" none).statements.2 with
  | error failure => simp [hes, hfs, hgs, Except.toOption] at hsame
  | ok gs =>
    obtain ⟨hyes, hno⟩ : allSame es fs = true ∧ allSame es gs = false := by
      simpa [hes, hfs, hgs, Except.toOption] using hsame
    refine ⟨es, fs, gs, rfl, rfl, rfl, (programOutline_eq_iff hes hfs).2 hyes, fun heq => ?_⟩
    exact absurd ((programOutline_eq_iff hes hgs).1 heq) (by simp [hno])

end Expr

end Scriptlet
