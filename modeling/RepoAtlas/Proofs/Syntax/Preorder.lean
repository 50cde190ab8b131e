import RepoAtlas.Syntax.Tree
import Mathlib.Data.List.Perm.Basic
import Mathlib.Tactic.SplitIfs

/-!
# Traversals as recursions

A traversal works off a list of links.  It visits them one after the other, each directly followed
by all that is below it (`preorder_eq_flatMap`), and what is below a node does not depend on how the
node was reached.  So the nodes it begins with may be put in any order, and below another parent:
the same is visited (`filterMap_preorder_perm`).

A traversal that stops at nodes of some kinds visits those that are not enclosed in such a node.
`occurrences` lists all nodes of a tree with what encloses them, and `outside_below` picks from this
list what is visited.
-/

namespace RepoAtlas.SyntaxNode

open List

variable {follow : SyntaxNode → SyntaxNode → Bool}

lemma preorder_eq_flatMap (follow : SyntaxNode → SyntaxNode → Bool) (links : List Link) :
    preorder follow links =
      links.flatMap fun link => link :: preorder follow (linksBelow follow link.node) := by
  induction links with
  | nil => rw [preorder, flatMap_nil]
  | cons link rest ih => rw [preorder, preorder_append, ih, flatMap_cons, cons_append]

section Reordered

variable {parent parent' : SyntaxNode} {nodes nodes' : List SyntaxNode} (h : nodes' ~ nodes)

include h

/-- **The order of the nodes it begins with is of no consequence** for what is read off the links of
a traversal, unless it is read off the parent of these nodes. -/
lemma filterMap_preorder_perm {β : Type} {f : Link → Option β}
    (hf : ∀ node, f ⟨parent', node⟩ = f ⟨parent, node⟩) :
    (preorder follow (nodes'.map (Link.mk parent'))).filterMap f ~
      (preorder follow (nodes.map (Link.mk parent))).filterMap f := by
  rw [preorder_eq_flatMap, preorder_eq_flatMap follow (nodes.map _), flatMap_map, flatMap_map,
    filterMap_flatMap, filterMap_flatMap]
  simp only [filterMap_cons, hf]
  exact h.flatMap_right _

lemma nodes_preorder_perm :
    (preorder follow (nodes'.map (Link.mk parent'))).map (·.node) ~
      (preorder follow (nodes.map (Link.mk parent))).map (·.node) := by
  have hnodes : (preorder follow (nodes'.map (Link.mk parent'))).filterMap (some ·.node) ~
      (preorder follow (nodes.map (Link.mk parent))).filterMap (some ·.node) :=
    filterMap_preorder_perm h fun _ => rfl
  simpa only [filterMap_eq_map'] using hnodes

end Reordered

/-- Each child is followed by what is below it, unless the traversal stops there. -/
lemma descendants_eq_flatMap (stops : List String) (node : SyntaxNode) :
    node.descendants stops = node.children.flatMap fun child =>
      child :: if stops.contains child.kind then [] else child.descendants stops := by
  rw [descendants, linksWithin, preorder_eq_flatMap, flatMap_map, map_flatMap]
  refine congrArg (fun f => node.children.flatMap f) (funext fun child => ?_)
  rw [map_cons, linksBelow]
  split_ifs with hstop
  · simp only [hstop, Bool.not_true, filter_false, map_nil, preorder]
  · simp only [hstop, Bool.not_false, filter_true, descendants, linksWithin]

/-! ## What is enclosed -/

/-- A node in a tree. -/
structure Occurrence where
  /-- The nodes that enclose it, innermost first. -/
  above : List SyntaxNode
  node : SyntaxNode

/-- Whether none of the nodes around it are of these kinds. -/
def Occurrence.isOutside (kinds : List String) (place : Occurrence) : Bool :=
  place.above.all fun outer => !kinds.contains outer.kind

lemma Occurrence.isOutside_append (kinds more : List String) (place : Occurrence) :
    place.isOutside (kinds ++ more) = (place.isOutside kinds && place.isOutside more) := by
  rw [Bool.eq_iff_iff]
  simp [isOutside, forall_and]

mutual

/-- A node and all that is below it, in document order. -/
def occurrences (above : List SyntaxNode) : SyntaxNode → List Occurrence
  | node@⟨_, _, _, _, _, _, _, children⟩ =>
    ⟨above, node⟩ :: occurrencesAmong (node :: above) children

def occurrencesAmong (above : List SyntaxNode) : List SyntaxNode → List Occurrence
  | [] => []
  | node :: more => occurrences above node ++ occurrencesAmong above more

end

lemma occurrences_eq (above : List SyntaxNode) (node : SyntaxNode) :
    occurrences above node = ⟨above, node⟩ :: occurrencesAmong (node :: above) node.children := by
  cases node
  rw [occurrences]

mutual

lemma mem_above_of_mem_occurrences {place : Occurrence} {above : List SyntaxNode}
    {outer : SyntaxNode} (houter : outer ∈ above) :
    ∀ node, place ∈ occurrences above node → outer ∈ place.above
  | ⟨_, _, _, _, _, _, _, children⟩, h => by
    rw [occurrences, mem_cons] at h
    rcases h with rfl | h
    · exact houter
    · exact mem_above_of_mem_occurrencesAmong (mem_cons_of_mem _ houter) children h

lemma mem_above_of_mem_occurrencesAmong {place : Occurrence} {above : List SyntaxNode}
    {outer : SyntaxNode} (houter : outer ∈ above) :
    ∀ nodes, place ∈ occurrencesAmong above nodes → outer ∈ place.above
  | [], h => by rw [occurrencesAmong] at h; cases h
  | node :: more, h => by
    rw [occurrencesAmong, mem_append] at h
    rcases h with h | h
    · exact mem_above_of_mem_occurrences houter node h
    · exact mem_above_of_mem_occurrencesAmong houter more h

end

variable {kinds : List String} {above : List SyntaxNode}

/-- Everything below a node of one of the kinds is inside. -/
lemma outside_of_enclosed {outer : SyntaxNode} (houter : outer ∈ above)
    (hkind : kinds.contains outer.kind = true) (nodes : List SyntaxNode) :
    (occurrencesAmong above nodes).filter (·.isOutside kinds) = [] := by
  refine filter_eq_nil_iff.2 fun place hplace houtside => ?_
  have hfree := all_eq_true.1 houtside outer (mem_above_of_mem_occurrencesAmong houter nodes hplace)
  rw [hkind] at hfree
  cases hfree

mutual

lemma outside_occurrences {above : List SyntaxNode}
    (habove : above.all (fun outer => !kinds.contains outer.kind) = true) :
    ∀ node, ((occurrences above node).filter (·.isOutside kinds)).map (·.node) =
      node :: if kinds.contains node.kind then [] else node.descendants kinds
  | ⟨kind, isNamed, isMissing, isFlagged, start, stop, field, children⟩ => by
    have hhere (node : SyntaxNode) : Occurrence.isOutside kinds ⟨above, node⟩ = true := habove
    rw [occurrences, filter_cons_of_pos (hhere _), map_cons]
    refine congrArg _ ?_
    split_ifs with hkind
    · rw [outside_of_enclosed (mem_cons_self ..) hkind, map_nil]
    · rw [descendants_eq_flatMap]
      refine outside_occurrencesAmong ?_ children
      rw [all_cons, habove, Bool.and_true, Bool.eq_false_iff.2 hkind, Bool.not_false]

lemma outside_occurrencesAmong {above : List SyntaxNode}
    (habove : above.all (fun outer => !kinds.contains outer.kind) = true) :
    ∀ nodes, ((occurrencesAmong above nodes).filter (·.isOutside kinds)).map (·.node) =
      nodes.flatMap fun node =>
        node :: if kinds.contains node.kind then [] else node.descendants kinds
  | [] => by rw [occurrencesAmong]; rfl
  | node :: more => by
    rw [occurrencesAmong, filter_append, map_append, flatMap_cons, outside_occurrences habove node,
      outside_occurrencesAmong habove more]

end

/-- **What a traversal visits** is what is outside the nodes at which it stops. -/
lemma outside_below (habove : above.all (fun outer => !kinds.contains outer.kind) = true)
    (node : SyntaxNode) :
    ((occurrencesAmong above node.children).filter (·.isOutside kinds)).map (·.node) =
      node.descendants kinds := by
  rw [outside_occurrencesAmong habove, ← descendants_eq_flatMap]

end RepoAtlas.SyntaxNode
