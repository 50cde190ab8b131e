import RepoAtlas.Outline.Python
import Mathlib.Data.List.Flatten
import Mathlib.Logic.Function.Iterate
import Mathlib.Tactic.Lemma
import Mathlib.Tactic.SplitIfs

/-!
# Traversals with a stack

What is below a node is found with a stack.  In each turn the last node on it is taken off and
visited, and what is to be visited inside that node is put on the stack in reverse.  Traversals
differ in which nodes they open and in what they admit inside them.

`unfolded` says the same by recursion on the tree.  A turn visits the first of all nodes that the
stack unfolds to, taken from its end, and the new stack unfolds to the others.  So the stack runs
empty after as many turns as there are nodes to visit, and these are visited in the order of the
recursion (`iterate_turn`).
-/

namespace RepoAtlas.SyntaxNode

open List

section Unfolding

variable (opens admits : SyntaxNode → Bool)

mutual

/-- A node, followed by what is unfolded of its children if the node is one that opens. -/
def unfolded : SyntaxNode → List SyntaxNode
  | node@⟨_, _, _, _, _, _, _, children⟩ =>
    node :: if opens node then unfoldedAmong children else []

/-- Siblings one after the other, as far as they are admitted. -/
def unfoldedAmong : List SyntaxNode → List SyntaxNode
  | [] => []
  | node :: more => (if admits node then unfolded node else []) ++ unfoldedAmong more

end

/-- What is to be visited directly below a node. -/
def inside (node : SyntaxNode) : List SyntaxNode :=
  if opens node then node.children.filter admits else []

lemma unfoldedAmong_eq (nodes : List SyntaxNode) :
    unfoldedAmong opens admits nodes = (nodes.filter admits).flatMap (unfolded opens admits) := by
  induction nodes with
  | nil => rw [unfoldedAmong, filter_nil, flatMap_nil]
  | cons node more ih =>
      rw [unfoldedAmong, ih, filter_cons]
      split_ifs with hadmits
      · rw [flatMap_cons]
      · rw [nil_append]

lemma unfolded_eq (node : SyntaxNode) : unfolded opens admits node =
    node :: (inside opens admits node).flatMap (unfolded opens admits) := by
  cases node
  rw [unfolded, unfoldedAmong_eq, inside]
  split_ifs with hopens
  · rfl
  · rfl

/-- After the first of some nodes comes what is inside it, and then the others. -/
lemma flatMap_unfolded_cons (node : SyntaxNode) (more : List SyntaxNode) :
    (node :: more).flatMap (unfolded opens admits) =
      node :: (inside opens admits node ++ more).flatMap (unfolded opens admits) := by
  rw [flatMap_cons, unfolded_eq, flatMap_append, cons_append]

mutual

lemma length_unfolded_le : ∀ node, (unfolded opens admits node).length ≤ node.size
  | ⟨kind, isNamed, isMissing, isFlagged, start, stop, field, children⟩ => by
    have hadmitted : ((children.filter admits).flatMap (unfolded opens admits)).length ≤
        sizeAll children :=
      Nat.le_trans (filter_sublist.flatMap _).length_le (length_unfoldings_le children)
    rw [unfolded_eq, inside, size, length_cons]
    split_ifs with hopens
    · rw [Nat.add_comm]
      exact Nat.add_le_add_left hadmitted 1
    · exact Nat.le_add_right 1 _

lemma length_unfoldings_le : ∀ nodes,
    (nodes.flatMap (unfolded opens admits)).length ≤ sizeAll nodes
  | [] => Nat.zero_le _
  | node :: more => by
    have hnode := length_unfolded_le node
    have hmore := length_unfoldings_le more
    rw [flatMap_cons, length_append, sizeAll]
    omega

end

/-- Links are unfolded one after the other. -/
lemma map_node_preorder {follow : SyntaxNode → SyntaxNode → Bool}
    (hfollow : ∀ parent child, follow parent child = (opens parent && admits child))
    (links : List Link) : (preorder follow links).map (·.node) =
      (links.map (·.node)).flatMap (unfolded opens admits) := by
  have hbelow : ∀ node, (linksBelow follow node).map (·.node) = inside opens admits node := by
    intro node
    have hnode : follow node = fun child => opens node && admits child :=
      funext (hfollow node)
    rw [linksBelow, List.map_map, hnode, inside]
    split_ifs with hopens
    · simp [hopens, Function.comp_def]
    · simp [hopens]
  fun_induction preorder follow links with
  | case1 => rfl
  | case2 link pending ih =>
      rw [map_cons, ih, map_append, hbelow, map_cons, flatMap_unfolded_cons]

/-! ## The stack -/

/-- A traversal under way. -/
structure Tour where
  visited : List SyntaxNode
  /-- What is to be visited, the next node last. -/
  stack : List SyntaxNode

namespace Tour

/-- Visits the last node on the stack and puts what is inside it there in reverse. -/
def turn (tour : Tour) : Tour :=
  match tour.stack.getLast? with
  | none => tour
  | some node => ⟨tour.visited ++ [node], tour.stack.dropLast ++ (inside opens admits node).reverse⟩

lemma turn_cons (visited more : List SyntaxNode) (node : SyntaxNode) :
    turn opens admits ⟨visited, (node :: more).reverse⟩ =
      ⟨visited ++ [node], (inside opens admits node ++ more).reverse⟩ := by
  simp [turn]

/-- **The stack runs empty** after as many turns as there are nodes, which are visited in the order
of the recursion. -/
lemma iterate_turn (visited nodes : List SyntaxNode) :
    (turn opens admits)^[(nodes.flatMap (unfolded opens admits)).length] ⟨visited, nodes.reverse⟩ =
      ⟨visited ++ nodes.flatMap (unfolded opens admits), []⟩ := by
  -- Each turn leaves one node fewer to be visited, and the same nodes all in all.
  induction hcount : (nodes.flatMap (unfolded opens admits)).length generalizing visited nodes with
  | zero =>
      cases nodes with
      | nil => simp
      | cons node more =>
          rw [flatMap_unfolded_cons] at hcount
          cases hcount
  | succ count ih =>
      cases nodes with
      | nil => cases hcount
      | cons node more =>
          rw [flatMap_unfolded_cons] at hcount ⊢
          rw [Function.iterate_succ_apply, turn_cons, ih _ _ (Nat.succ.inj hcount),
            append_assoc, singleton_append]

end Tour

/-- The nodes that a traversal visits are those of the recursion, and the traversal ends with
them. -/
structure Unfolds (start visited : List SyntaxNode) : Prop where
  recursive : visited = start.flatMap (unfolded opens admits)
  ends : (Tour.turn opens admits)^[visited.length] ⟨[], start.reverse⟩ = ⟨visited, []⟩
  bounded : visited.length ≤ sizeAll start

variable {opens admits}

lemma Unfolds.of_preorder {follow : SyntaxNode → SyntaxNode → Bool}
    (hfollow : ∀ parent child, follow parent child = (opens parent && admits child))
    (parent : SyntaxNode) (start : List SyntaxNode) :
    Unfolds opens admits start ((preorder follow (start.map (⟨parent, ·⟩))).map (·.node)) := by
  have hvisited : (preorder follow (start.map (⟨parent, ·⟩))).map (·.node) =
      start.flatMap (unfolded opens admits) := by
    rw [map_node_preorder opens admits hfollow, List.map_map]
    exact congrArg _ (map_id start)
  rw [hvisited]
  exact ⟨rfl, Tour.iterate_turn opens admits [] start, length_unfoldings_le opens admits start⟩

end Unfolding

/-- **What is found with a stack is what the recursion on the tree finds.**  The nodes below a node
are its children, each followed by the nodes below it unless it is of a kind at which to stop.  The
statements at the top level are the constructs in the file, each followed by those inside it if it
holds a block, but for the comments there. -/
theorem traversals_unfold_trees :
    (∀ stops (node : SyntaxNode), Unfolds (fun inner => !stops.contains inner.kind) (fun _ => true)
      node.children (node.descendants stops)) ∧
    ∀ root : SyntaxNode, Unfolds (fun inner => Python.blockKinds.contains inner.kind)
      (fun child => child.isNamed && !child.isComment) root.namedChildren
      (Python.topLevelStatements root) := by
  refine ⟨fun stops node => ?_, fun root => ?_⟩
  · have hfollow : ∀ parent _ : SyntaxNode,
        (!stops.contains parent.kind) = (!stops.contains parent.kind && true) :=
      fun _ _ => (Bool.and_true _).symm
    exact .of_preorder hfollow node node.children
  · have hfollow : ∀ parent child : SyntaxNode,
        (Python.blockKinds.contains parent.kind && child.isNamed && !child.isComment) =
          (Python.blockKinds.contains parent.kind && (child.isNamed && !child.isComment)) :=
      fun _ _ => Bool.and_assoc _ _ _
    exact .of_preorder hfollow root root.namedChildren

end RepoAtlas.SyntaxNode
