import RepoAtlas.Data.Entries

/-!
# Clusters of cycles

Cycles that share a node depend on one another as a whole. A *cluster* is a set of nodes: every walk
lies in one cluster, and walks that share a node lie in the same one. A cluster is known by its
leader, which is its least node.

Clusters grow as the trees of a forest in which no parent is greater than its child. So whoever goes
from child to parent gets to a root, and the root of a tree is its least node. Two trees are joined
by hanging the greater root under the other one, and every time a root is looked for, the way to it
gets shorter.
-/

namespace RepoAtlas

/-- A forest of numbered nodes. A root is its own parent. -/
structure Forest where
  /-- The parent of every node, in the order in which the nodes were planted. -/
  parents : List (Nat × Nat)
  descending : ∀ node parent, parents.lookup node = some parent → parent ≤ node

namespace Forest

def empty : Forest := ⟨[], nofun⟩

def nodes (forest : Forest) : List Nat := forest.parents.map (·.1)

/-- The parent of a node; a node that is not in the forest stands for itself. -/
def parent (forest : Forest) (node : Nat) : Nat := (forest.parents.lookup node).getD node

theorem parent_le (forest : Forest) (node : Nat) : forest.parent node ≤ node := by
  cases h : forest.parents.lookup node with
  | none => simp [parent, h]
  | some above => simpa [parent, h] using forest.descending node above h

/-- Makes a node a tree of its own, unless it is in the forest already. -/
def plant (forest : Forest) (node : Nat) : Forest where
  parents := Entries.insertNew node node forest.parents
  descending child above h := by
    rw [Entries.lookup_insertNew] at h
    split at h
    · rename_i same
      cases h
      rw [eq_of_beq same]
      exact forest.parent_le node
    · exact forest.descending child above h

/-- Hangs a node, with all that is below it, under another one. -/
def hang (forest : Forest) (node above : Nat) (le : above ≤ node) : Forest where
  parents := Entries.insert node above forest.parents
  descending child parent h := by
    rw [Entries.lookup_insert] at h
    split at h
    · rename_i same
      cases h
      rwa [eq_of_beq same]
    · exact forest.descending child parent h

/-- The root above a node, and what becomes of the forest on the way there: the node is hung under
its grandparent, and so is every node at which the search arrives from then on. -/
@[semireducible]
def find (forest : Forest) (node : Nat) : Nat × Forest :=
  if _top : forest.parent node = node then (node, forest)
  else
    let above := forest.parent (forest.parent node)
    have le : above ≤ node := Nat.le_trans (forest.parent_le _) (forest.parent_le node)
    (forest.hang node above le).find above
termination_by node
decreasing_by
  have first := forest.parent_le node
  have second := forest.parent_le (forest.parent node)
  omega

/-- Joins the tree of a node with the one whose root is `head`, and says which root is left. -/
def join (forest : Forest) (head node : Nat) : Nat × Forest :=
  let (other, forest) := forest.find node
  if other = head then (head, forest)
  else (min head other, forest.hang (max head other) (min head other) (by omega))

/-- Joins the trees of some nodes, one after the other, with the one whose root is `head`. -/
def joinAll (forest : Forest) (head : Nat) : List Nat → Forest
  | [] => forest
  | node :: more =>
    let (head, forest) := forest.join head node
    forest.joinAll head more

/-- Adds the nodes of a walk that are new, and joins the trees of all its nodes. -/
def addWalk (forest : Forest) : List Nat → Forest
  | [] => forest
  | first :: more =>
    let (head, forest) := ((first :: more).foldl plant forest).find first
    forest.joinAll head more

def ofWalks (walks : List (List Nat)) : Forest := walks.foldl addWalk empty

/-- Some nodes with the roots above them. -/
def roots (forest : Forest) : List Nat → List (Nat × Nat)
  | [] => []
  | node :: more =>
    let (root, forest) := forest.find node
    (node, root) :: forest.roots more

end Forest

/-- The nodes of all clusters, each with its leader. -/
abbrev Clusters := List (Nat × Nat)

namespace Clusters

def ofWalks (walks : List (List Nat)) : Clusters :=
  let forest := Forest.ofWalks walks
  forest.roots forest.nodes

/-- The leader of the cluster that a node is in, if it is in one. -/
def leaderOf? (clusters : Clusters) (node : Nat) : Option Nat := clusters.lookup node

end Clusters

end RepoAtlas
