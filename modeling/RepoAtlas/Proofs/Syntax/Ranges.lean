import RepoAtlas.Syntax.Tree
import Mathlib.Data.List.Basic
import Mathlib.Tactic.Lemma

/-!
# Ranges and document order

A parser gives every node a range of offsets.  In a tree whose ranges are nested, the children of a
node lie inside it, one after the other; then document order is the order of the offsets.

`preorder_inOrder` is that statement for the traversal.  A node that is visited later starts no
earlier, and it starts only where an earlier one stops, unless it is below that one.  So whatever is
read off nodes that are not below each other comes in the order of the source.

`Encloses` forgets the order and keeps the nesting: whatever is found below a node, by way of its
fields or by a traversal, lies in its range.
-/

namespace RepoAtlas.SyntaxNode

open List

/-- Every node holds the ranges of its children, which lie in it one after the other. -/
inductive RangesNested : SyntaxNode → Prop
  | intro {node : SyntaxNode} (forwards : node.start ≤ node.stop)
      (inside : ∀ child ∈ node.children, node.start ≤ child.start ∧ child.stop ≤ node.stop)
      (apart : node.children.Pairwise fun a b => a.stop ≤ b.start)
      (children : ∀ child ∈ node.children, child.RangesNested) : RangesNested node

namespace RangesNested

variable {node child : SyntaxNode}

lemma forwards (h : node.RangesNested) : node.start ≤ node.stop := by
  cases h
  assumption

lemma inside (h : node.RangesNested) (hchild : child ∈ node.children) :
    node.start ≤ child.start ∧ child.stop ≤ node.stop := by
  obtain ⟨-, hinside, -, -⟩ := h
  exact hinside child hchild

lemma apart (h : node.RangesNested) : node.children.Pairwise fun a b => a.stop ≤ b.start := by
  cases h
  assumption

lemma of_mem_children (h : node.RangesNested) (hchild : child ∈ node.children) :
    child.RangesNested := by
  obtain ⟨-, -, -, hchildren⟩ := h
  exact hchildren child hchild

lemma of_mem_namedChildren (h : node.RangesNested) (hchild : child ∈ node.namedChildren) :
    child.RangesNested :=
  h.of_mem_children (mem_of_mem_filter hchild)

lemma of_child? (h : node.RangesNested) {field : String} (hchild : node.child? field = some child) :
    child.RangesNested :=
  h.of_mem_children (mem_of_find?_eq_some hchild)

end RangesNested

/-! ### Checking a tree -/

mutual

/-- Goes over a tree and compares the ranges of each node and its children. -/
def hasNestedRanges : SyntaxNode → Bool
  | ⟨_, _, _, _, start, stop, _, children⟩ =>
    start ≤ stop && children.all (fun child => start ≤ child.start && child.stop ≤ stop)
      && decide (children.Pairwise fun a b => a.stop ≤ b.start) && allHaveNestedRanges children

def allHaveNestedRanges : List SyntaxNode → Bool
  | [] => true
  | node :: more => node.hasNestedRanges && allHaveNestedRanges more

end

lemma allHaveNestedRanges_iff (nodes : List SyntaxNode) :
    allHaveNestedRanges nodes = true ↔ ∀ node ∈ nodes, node.hasNestedRanges = true := by
  induction nodes with
  | nil => simp [allHaveNestedRanges]
  | cons node more ih => simp [allHaveNestedRanges, ih]

lemma hasNestedRanges_eq (node : SyntaxNode) :
    node.hasNestedRanges = true ↔
      node.start ≤ node.stop ∧
      (∀ child ∈ node.children, node.start ≤ child.start ∧ child.stop ≤ node.stop) ∧
      (node.children.Pairwise fun a b => a.stop ≤ b.start) ∧
      ∀ child ∈ node.children, child.hasNestedRanges = true := by
  cases node
  simp [hasNestedRanges, allHaveNestedRanges_iff, and_assoc]

lemma RangesNested.of_hasNestedRanges (node : SyntaxNode) (h : node.hasNestedRanges = true) :
    node.RangesNested := by
  obtain ⟨hforwards, hinside, hapart, hchildren⟩ := (hasNestedRanges_eq node).1 h
  refine .intro hforwards hinside hapart fun child hchild => ?_
  have : sizeOf child < sizeOf node := by
    have := sizeOf_lt_of_mem hchild
    cases node
    simp only [mk.sizeOf_spec] at this ⊢
    omega
  exact of_hasNestedRanges child (hchildren child hchild)
termination_by sizeOf node

theorem rangesNested_iff (node : SyntaxNode) :
    node.RangesNested ↔ node.hasNestedRanges = true := by
  refine ⟨fun h => ?_, .of_hasNestedRanges node⟩
  induction h with
  | intro hforwards hinside hapart _ ih =>
      exact (hasNestedRanges_eq _).2 ⟨hforwards, hinside, hapart, ih⟩

instance : DecidablePred RangesNested := fun node =>
  decidable_of_iff _ (rangesNested_iff node).symm

/-- A node without errors that stands for a construct. -/
def construct (kind : String) (field : Option String) (start stop : ℕ)
    (children : List SyntaxNode) : SyntaxNode :=
  ⟨kind, true, false, false, start, stop, field, children⟩

/-! ## The traversal -/

section Preorder

variable (follow : SyntaxNode → SyntaxNode → Bool) {links : List Link}

/-- What holds of the nodes it starts with and passes to children holds of all that is visited. -/
lemma forall_mem_preorder {p : SyntaxNode → Prop}
    (hp : ∀ node, p node → ∀ child ∈ node.children, p child) (h : ∀ link ∈ links, p link.node) :
    ∀ link ∈ preorder follow links, p link.node := by
  fun_induction preorder follow links with
  | case1 => simp
  | case2 link pending ih =>
      obtain ⟨hlink, hpending⟩ := forall_mem_cons.1 h
      refine forall_mem_cons.2 ⟨hlink, ih fun other hother => ?_⟩
      rcases mem_append.1 hother with hbelow | hother
      · obtain ⟨child, hchild, rfl⟩ := mem_map.1 hbelow
        exact hp link.node hlink child (mem_of_mem_filter hchild)
      · exact hpending other hother

variable (hnested : ∀ link ∈ links, link.node.RangesNested)

include hnested

lemma le_start_of_mem_preorder {offset : ℕ} (h : ∀ link ∈ links, offset ≤ link.node.start) :
    ∀ link ∈ preorder follow links, offset ≤ link.node.start := by
  have hboth : ∀ link ∈ preorder follow links,
      link.node.RangesNested ∧ offset ≤ link.node.start := by
    refine forall_mem_preorder (p := fun node => node.RangesNested ∧ offset ≤ node.start) follow
      (fun node hnode child hchild => ?_) fun link hlink => ⟨hnested link hlink, h link hlink⟩
    exact ⟨hnode.1.of_mem_children hchild, Nat.le_trans hnode.2 (hnode.1.inside hchild).1⟩
  exact fun link hlink => (hboth link hlink).2

/-- **Document order is the order of offsets.**  What is visited after a node starts no earlier; and
it starts where that node stops or later if the traversal does not go below that node. -/
lemma preorder_inOrder (hapart : links.Pairwise fun a b => a.node.stop ≤ b.node.start) :
    (preorder follow links).Pairwise fun a b =>
      a.node.start ≤ b.node.start ∧
        (linksBelow follow a.node = [] → a.node.stop ≤ b.node.start) := by
  fun_induction preorder follow links with
  | case1 => exact Pairwise.nil
  | case2 link pending ih =>
      obtain ⟨hlink, hpending⟩ := forall_mem_cons.1 hnested
      obtain ⟨hafter, hapart⟩ := pairwise_cons.1 hapart
      have hbelow : ∀ other ∈ linksBelow follow link.node, other.node.RangesNested ∧
          link.node.start ≤ other.node.start ∧ other.node.stop ≤ link.node.stop := by
        intro other hother
        obtain ⟨child, hchild, rfl⟩ := mem_map.1 hother
        have hmem : child ∈ link.node.children := mem_of_mem_filter hchild
        exact ⟨hlink.of_mem_children hmem, hlink.inside hmem⟩
      have hrest : ∀ other ∈ linksBelow follow link.node ++ pending,
          other.node.RangesNested := by
        intro other hother
        rcases mem_append.1 hother with hother | hother
        · exact (hbelow other hother).1
        · exact hpending other hother
      refine pairwise_cons.2 ⟨fun other hother => ⟨?_, fun hnone => ?_⟩, ih hrest ?_⟩
      · refine le_start_of_mem_preorder follow hrest (fun next hnext => ?_) other hother
        rcases mem_append.1 hnext with hnext | hnext
        · exact (hbelow next hnext).2.1
        · exact Nat.le_trans hlink.forwards (hafter next hnext)
      · rw [hnone] at hother
        exact le_start_of_mem_preorder follow hpending hafter other hother
      · refine pairwise_append.2 ⟨?_, hapart, fun a ha b hb => ?_⟩
        · exact pairwise_map.2 (hlink.apart.filter _)
        · exact Nat.le_trans (hbelow a ha).2.2 (hafter b hb)

end Preorder

section Root

variable {root : SyntaxNode} (h : root.RangesNested)

include h

/-- The children of a node, or some of them, stand one after the other. -/
lemma links_apart (p : SyntaxNode → Bool) :
    ((root.children.filter p).map (Link.mk root)).Pairwise fun a b => a.node.stop ≤ b.node.start :=
  pairwise_map.2 (h.apart.filter _)

lemma links_nested (p : SyntaxNode → Bool) :
    ∀ link ∈ (root.children.filter p).map (Link.mk root), link.node.RangesNested := by
  intro link hlink
  obtain ⟨child, hchild, rfl⟩ := mem_map.1 hlink
  exact h.of_mem_children (mem_of_mem_filter hchild)

end Root

/-! ## Starts -/

section Starts

variable {node : SyntaxNode} {nodes : List SyntaxNode}

lemma starts_of_apart (hnested : ∀ node ∈ nodes, node.RangesNested)
    (hapart : nodes.Pairwise fun a b => a.stop ≤ b.start) :
    nodes.Pairwise fun a b => a.start ≤ b.start :=
  hapart.imp_of_mem fun ha _ h => Nat.le_trans (hnested _ ha).forwards h

/-- The children of a node start in order. -/
lemma RangesNested.starts (h : node.RangesNested) :
    node.children.Pairwise fun a b => a.start ≤ b.start :=
  starts_of_apart (fun _ hchild => h.of_mem_children hchild) h.apart

lemma RangesNested.namedStarts (h : node.RangesNested) :
    node.namedChildren.Pairwise fun a b => a.start ≤ b.start :=
  h.starts.filter _

/-- The named children of a part that there may be: those of a child, or none. -/
lemma namedChildren_part (node : SyntaxNode) (field : String) :
    ((node.child? field).map (·.namedChildren)).getD [] = [] ∨
      ∃ part ∈ node.children,
        ((node.child? field).map (·.namedChildren)).getD [] = part.namedChildren := by
  cases hpart : node.child? field with
  | none => exact .inl rfl
  | some part => exact .inr ⟨part, mem_of_find?_eq_some hpart, rfl⟩

lemma RangesNested.of_mem_part {child : SyntaxNode} (h : node.RangesNested) {field : String}
    (hchild : child ∈ ((node.child? field).map (·.namedChildren)).getD []) :
    child.RangesNested := by
  rcases namedChildren_part node field with hnone | ⟨part, hpart, hsome⟩
  · rw [hnone] at hchild
    cases hchild
  · rw [hsome] at hchild
    exact (h.of_mem_children hpart).of_mem_namedChildren hchild

lemma RangesNested.partApart (h : node.RangesNested) (field : String) :
    (((node.child? field).map (·.namedChildren)).getD []).Pairwise fun a b => a.stop ≤ b.start := by
  rcases namedChildren_part node field with hnone | ⟨part, hpart, hsome⟩
  · rw [hnone]
    exact Pairwise.nil
  · rw [hsome]
    exact (h.of_mem_children hpart).apart.filter _

lemma RangesNested.partStarts (h : node.RangesNested) (field : String) :
    (((node.child? field).map (·.namedChildren)).getD []).Pairwise fun a b => a.start ≤ b.start :=
  starts_of_apart (fun _ hchild => h.of_mem_part hchild) (h.partApart field)

/-- All nodes below a node, in document order. -/
lemma RangesNested.descendantStarts (h : node.RangesNested) (stops : List String) :
    (node.linksWithin stops).Pairwise fun a b => a.node.start ≤ b.node.start := by
  have hlinks := preorder_inOrder (fun parent _ => !stops.contains parent.kind)
    (links_nested h fun _ => true) (links_apart h fun _ => true)
  rw [filter_true] at hlinks
  exact hlinks.imp And.left

end Starts

/-! ## Enclosed nodes -/

/-- A node whose ranges are nested, inside the range of another one. -/
structure Encloses (outer inner : SyntaxNode) : Prop where
  nested : inner.RangesNested
  start_le : outer.start ≤ inner.start
  stop_le : inner.stop ≤ outer.stop

section Encloses

variable {outer node inner : SyntaxNode}

lemma RangesNested.encloses_self (h : node.RangesNested) : node.Encloses node :=
  ⟨h, Nat.le_refl _, Nat.le_refl _⟩

lemma Encloses.trans (h : outer.Encloses node) (hinner : node.Encloses inner) :
    outer.Encloses inner :=
  ⟨hinner.nested, Nat.le_trans h.start_le hinner.start_le,
    Nat.le_trans hinner.stop_le h.stop_le⟩

lemma RangesNested.encloses (h : node.RangesNested) (hinner : inner ∈ node.children) :
    node.Encloses inner :=
  ⟨h.of_mem_children hinner, (h.inside hinner).1, (h.inside hinner).2⟩

namespace Encloses

variable (h : outer.Encloses node)

include h

lemma of_mem_children (hinner : inner ∈ node.children) : outer.Encloses inner :=
  h.trans (h.nested.encloses hinner)

lemma of_mem_namedChildren (hinner : inner ∈ node.namedChildren) : outer.Encloses inner :=
  h.of_mem_children (mem_of_mem_filter hinner)

lemma of_child? {field : String} (hinner : node.child? field = some inner) :
    outer.Encloses inner :=
  h.of_mem_children (mem_of_find?_eq_some hinner)

lemma of_mem_part {field : String}
    (hinner : inner ∈ ((node.child? field).map (·.namedChildren)).getD []) :
    outer.Encloses inner := by
  cases hpart : node.child? field with
  | none => simp [hpart] at hinner
  | some part =>
      rw [hpart] at hinner
      exact (h.of_child? hpart).of_mem_namedChildren hinner

/-- Whatever a traversal visits below a node is enclosed. -/
lemma of_mem_preorder (follow : SyntaxNode → SyntaxNode → Bool) (p : SyntaxNode → Bool) :
    ∀ link ∈ preorder follow ((node.children.filter p).map (Link.mk node)),
      outer.Encloses link.node := by
  refine forall_mem_preorder follow (fun _ hnode _ hchild => hnode.of_mem_children hchild) ?_
  simp only [mem_map, mem_filter]
  rintro _ ⟨child, ⟨hchild, -⟩, rfl⟩
  exact h.of_mem_children hchild

lemma of_mem_linksWithin {stops : List String} {link : Link}
    (hlink : link ∈ node.linksWithin stops) : outer.Encloses link.node := by
  refine h.of_mem_preorder (fun parent _ => !stops.contains parent.kind) (fun _ => true) link ?_
  rw [filter_true]
  exact hlink

lemma of_mem_descendants {stops : List String} (hinner : inner ∈ node.descendants stops) :
    outer.Encloses inner := by
  obtain ⟨link, hlink, rfl⟩ := mem_map.1 hinner
  exact h.of_mem_linksWithin hlink

end Encloses

end Encloses

end RepoAtlas.SyntaxNode
