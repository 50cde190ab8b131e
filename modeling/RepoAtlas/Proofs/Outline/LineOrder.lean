import RepoAtlas.Outline.Reading
import RepoAtlas.Proofs.Syntax.Ranges
import Mathlib.Tactic.SplitIfs

/-!
# Lists in the order of lines

What an outline lists has a span, and the list is meant to be in the order of the lines at which the
spans start.  There are two ways to get there: the items are read off nodes that start one after the
other and have the spans of these nodes (`inLineOrder_flatMap` and its variants), or the list is
sorted by line at the end (`inLineOrder_mergeSort`).
-/

namespace RepoAtlas

open List

/-- The lines of `inner` are among those of `outer`. -/
def Span.Covers (outer inner : Span) : Prop :=
  outer.startLine ≤ inner.startLine ∧ inner.endLine ≤ outer.endLine

/-! ## Lists by line -/

/-- The items come in the order of their lines. -/
def InLineOrder {α : Type} (line : α → Int) (items : List α) : Prop :=
  items.Pairwise fun a b => line a ≤ line b

section InLineOrder

variable {α : Type} {line : α → Int} {source : Source} {nodes : List SyntaxNode} {span : α → Span}

/-- Sorting by line first, whatever decides among items of one line. -/
lemma inLineOrder_mergeSort {tie : α → α → Bool} (htrans : ∀ a b c, tie a b → tie b c → tie a c)
    (htotal : ∀ a b, tie a b || tie b a) (items : List α) :
    InLineOrder line (items.mergeSort fun a b =>
      if line a = line b then tie a b else decide (line a ≤ line b)) := by
  refine (pairwise_mergeSort (fun a b c hab hbc => ?_) (fun a b => ?_) items).imp fun {a b} h => ?_
  · have := htrans a b c
    split_ifs at hab hbc ⊢ <;> simp_all
    all_goals omega
  · have := htotal a b
    split_ifs <;> simp_all
    omega
  · split_ifs at h with heq
    · omega
    · exact of_decide_eq_true h

/-- The order of names decides among items of one line. -/
lemma inLineOrder_mergeSort_named (name : α → String) (items : List α) :
    InLineOrder line (items.mergeSort fun a b =>
      if line a = line b then decide (name a ≤ name b) else decide (line a ≤ line b)) := by
  refine inLineOrder_mergeSort (fun a b c hab hbc => ?_) (fun a b => ?_) items
  · simp only [decide_eq_true_eq] at hab hbc ⊢
    exact String.le_trans hab hbc
  · simpa using String.le_total (name a) (name b)

lemma startLine_spanOf_le {a b : SyntaxNode} (h : a.start ≤ b.start) :
    (source.spanOf a).startLine ≤ (source.spanOf b).startLine :=
  Int.ofNat_le.2 (source.lineAt_mono h)

/-- What is read off nodes one after the other, with the spans of the nodes. -/
lemma inLineOrder_flatMap {read : SyntaxNode → List α}
    (hspan : ∀ node ∈ nodes, ∀ item ∈ read node, span item = source.spanOf node)
    (hstarts : nodes.Pairwise fun a b => a.start ≤ b.start) :
    InLineOrder (fun item => (span item).startLine) (nodes.flatMap read) := by
  refine pairwise_flatMap.2 ⟨fun node hnode => ?_, ?_⟩
  · refine pairwise_of_forall_mem_list fun a ha b hb => ?_
    simp only [hspan node hnode a ha, hspan node hnode b hb, Int.le_refl]
  · refine hstarts.imp_of_mem fun {a b} ha hb h x hx y hy => ?_
    simp only [hspan a ha x hx, hspan b hb y hy]
    exact startLine_spanOf_le h

/-- What some nodes give, with the spans of the nodes. -/
lemma inLineOrder_filterMap {read : SyntaxNode → Option α}
    (hspan : ∀ node ∈ nodes, ∀ item ∈ read node, span item = source.spanOf node)
    (hstarts : nodes.Pairwise fun a b => a.start ≤ b.start) :
    InLineOrder (fun item => (span item).startLine) (nodes.filterMap read) := by
  rw [filterMap_eq_flatMap_toList]
  have hitems : ∀ node ∈ nodes, ∀ item ∈ (read node).toList, span item = source.spanOf node :=
    fun node hnode item hitem => hspan node hnode item (Option.mem_toList.1 hitem)
  exact inLineOrder_flatMap hitems hstarts

/-- Items with the spans of nodes that start in order. -/
lemma inLineOrder_of_spans {items : List α} (hspans : items.map span = nodes.map source.spanOf)
    (hstarts : nodes.Pairwise fun a b => a.start ≤ b.start) :
    InLineOrder (fun item => (span item).startLine) items := by
  have hlines : (items.map span).Pairwise fun a b => a.startLine ≤ b.startLine := by
    rw [hspans]
    exact pairwise_map.2 (hstarts.imp startLine_spanOf_le)
  exact Pairwise.of_map span (fun _ _ => id) hlines

end InLineOrder

end RepoAtlas
