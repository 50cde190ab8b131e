import RepoAtlas.Graph.Clusters
import RepoAtlas.Proofs.Data.Entries
import Mathlib.Order.MinMax

/-!
# Roots of a forest

What matters about a forest is which root is above which node.  `Forest.root` climbs to it one
parent at a time, and `Forest.eq_root` says that there is no other function that is constant along
the way up and leaves the roots where they are.  So what an operation does to the roots is read off
what it does to the parents of single nodes.

Looking for a root shortens ways but moves no node to another tree (`root_find`), and joining two
trees puts the least root above all of their nodes and changes nothing elsewhere (`root_join`).
-/

namespace RepoAtlas.Forest

open List

variable {forest : Forest} {node above head i : ℕ}

/-! ## The way up -/

/-- The root above a node. -/
def root (forest : Forest) (node : ℕ) : ℕ :=
  if _top : forest.parent node = node then node else forest.root (forest.parent node)
termination_by node
decreasing_by
  have le := forest.parent_le node
  omega

lemma root_of_top (h : forest.parent node = node) : forest.root node = node := by
  rw [root, dif_pos h]

lemma root_parent (forest : Forest) (node : ℕ) :
    forest.root (forest.parent node) = forest.root node := by
  by_cases h : forest.parent node = node
  · rw [h]
  · rw [root.eq_def forest node, dif_neg h]

lemma parent_root (forest : Forest) (node : ℕ) :
    forest.parent (forest.root node) = forest.root node := by
  fun_induction root forest node with
  | case1 node htop => exact htop
  | case2 node _ ih => exact ih

lemma root_root (forest : Forest) (node : ℕ) : forest.root (forest.root node) = forest.root node :=
  root_of_top (parent_root forest node)

/-- **The root of a tree is its least node.** -/
lemma root_le (forest : Forest) (node : ℕ) : forest.root node ≤ node := by
  fun_induction root forest node with
  | case1 => exact le_refl _
  | case2 node _ ih => exact ih.trans (forest.parent_le node)

/-- **The roots are determined** by where they are and by being the same along the way up. -/
lemma eq_root {r : ℕ → ℕ} (htop : ∀ i, forest.parent i = i → r i = i)
    (hstep : ∀ i, r (forest.parent i) = r i) : forest.root = r := by
  funext node
  fun_induction root forest node with
  | case1 node h => exact (htop node h).symm
  | case2 node _ ih => rw [ih, hstep]

/-! ## Planting and hanging -/

lemma parent_plant (forest : Forest) (node : ℕ) : (forest.plant node).parent = forest.parent := by
  funext i
  rw [parent, plant, Entries.lookup_insertNew]
  by_cases h : i = node
  · subst h
    rw [if_pos (beq_self_eq_true i), Option.getD_some, parent]
  · rw [if_neg (by simpa using h), parent]

lemma parent_hang (le : above ≤ node) :
    (forest.hang node above le).parent i = if i = node then above else forest.parent i := by
  rw [parent, hang, Entries.lookup_insert]
  by_cases h : i = node
  · rw [if_pos (by simpa using h), if_pos h, Option.getD_some]
  · rw [if_neg (by simpa using h), if_neg h, parent]

lemma mem_nodes_plant : i ∈ (forest.plant node).nodes ↔ i ∈ forest.nodes ∨ i = node := by
  have hadd : (forest.plant node).nodes =
      (Entries.addNew forest.parents [(node, node)]).map (·.1) := rfl
  rw [hadd, Entries.mem_keys_addNew, map_append, mem_append, map_singleton, mem_singleton, nodes]

lemma nodup_plant (h : forest.nodes.Nodup) : (forest.plant node).nodes.Nodup :=
  Entries.KeysDistinct.insertNew h node node

lemma nodes_hang (le : above ≤ node) (h : node ∈ forest.nodes) :
    (forest.hang node above le).nodes = forest.nodes :=
  Entries.keys_insert_of_mem h

/-- What is not in the forest stands for itself. -/
lemma mem_nodes_of_parent_ne (h : forest.parent node ≠ node) : node ∈ forest.nodes := by
  refine Entries.lookup_isSome_iff_mem.1 (Option.isSome_iff_ne_none.2 fun hnone => h ?_)
  rw [parent, hnone, Option.getD_none]

lemma root_plant (forest : Forest) (node : ℕ) : (forest.plant node).root = forest.root := by
  refine eq_root (fun i hi => root_of_top ?_) fun i => ?_
  · rwa [parent_plant] at hi
  · rw [parent_plant, root_parent]

/-- Hanging a node further up in its own tree leaves the roots as they are. -/
lemma root_hang_of_root_eq (hlt : above < node) (h : forest.root above = forest.root node) :
    (forest.hang node above hlt.le).root = forest.root := by
  refine eq_root (fun i hi => root_of_top ?_) fun i => ?_
  · rw [parent_hang] at hi
    split_ifs at hi with hnode
    · omega
    · exact hi
  · rw [parent_hang]
    split_ifs with hnode
    · rw [h, hnode]
    · exact root_parent forest i

/-- Hanging a root under another one changes the root of its own tree. -/
lemma root_hang_of_top (hlt : above < node) (hnode : forest.root node = node)
    (habove : forest.root above = above) :
    (forest.hang node above hlt.le).root =
      fun i => if forest.root i = node then above else forest.root i := by
  refine eq_root (fun i hi => ?_) fun i => ?_
  · rw [parent_hang] at hi
    split_ifs at hi with hsame
    · omega
    · rw [root_of_top hi, if_neg hsame]
  · rw [parent_hang]
    by_cases hsame : i = node
    · rw [if_pos hsame, hsame, hnode, habove, if_pos rfl, if_neg hlt.ne]
    · rw [if_neg hsame, root_parent]

/-! ## Looking for a root -/

lemma grandparent_lt (h : forest.parent node ≠ node) :
    forest.parent (forest.parent node) < node :=
  (forest.parent_le _).trans_lt (lt_of_le_of_ne (forest.parent_le node) h)

lemma root_grandparent (forest : Forest) (node : ℕ) :
    forest.root (forest.parent (forest.parent node)) = forest.root node := by
  rw [root_parent, root_parent]

/-- **The search moves no node to another tree.** -/
lemma root_find (forest : Forest) (node : ℕ) : (forest.find node).2.root = forest.root := by
  fun_induction find forest node with
  | case1 => rfl
  | case2 forest node htop above le ih =>
      rw [ih, root_hang_of_root_eq (grandparent_lt htop) (root_grandparent forest node)]

/-- **The search arrives at the root.** -/
lemma find_fst (forest : Forest) (node : ℕ) : (forest.find node).1 = forest.root node := by
  fun_induction find forest node with
  | case1 forest node htop => exact (root_of_top htop).symm
  | case2 forest node htop above le ih =>
      rw [ih, root_hang_of_root_eq (grandparent_lt htop) (root_grandparent forest node)]
      exact root_grandparent forest node

lemma nodes_find (forest : Forest) (node : ℕ) : (forest.find node).2.nodes = forest.nodes := by
  fun_induction find forest node with
  | case1 => rfl
  | case2 forest node htop above le ih => rw [ih, nodes_hang le (mem_nodes_of_parent_ne htop)]

lemma roots_cons (forest : Forest) (node : ℕ) (more : List ℕ) : forest.roots (node :: more) =
    (node, (forest.find node).1) :: (forest.find node).2.roots more := rfl

lemma roots_eq (forest : Forest) (nodes : List ℕ) :
    forest.roots nodes = nodes.map fun node => (node, forest.root node) := by
  induction nodes generalizing forest with
  | nil => rfl
  | cons node more ih => rw [roots_cons, ih, root_find, find_fst, map_cons]

/-! ## Joining trees -/

lemma join_of_eq (h : forest.root node = head) :
    forest.join head node = (head, (forest.find node).2) := by
  rw [← find_fst] at h
  rw [join]
  exact if_pos h

lemma join_of_ne (h : forest.root node ≠ head) : forest.join head node =
    (min head (forest.root node), (forest.find node).2.hang (max head (forest.root node))
      (min head (forest.root node)) min_le_max) := by
  simp only [← find_fst] at h ⊢
  rw [join]
  exact if_neg h

lemma join_fst (forest : Forest) (head node : ℕ) :
    (forest.join head node).1 = min head (forest.root node) := by
  by_cases h : forest.root node = head
  · rw [join_of_eq h, h, min_self]
  · rw [join_of_ne h]

/-- **The trees that are joined get the least of their roots**, and no other tree changes. -/
lemma root_join (hhead : forest.root head = head) : (forest.join head node).2.root i =
    if forest.root i = head ∨ forest.root i = forest.root node then min head (forest.root node)
    else forest.root i := by
  by_cases h : forest.root node = head
  · rw [join_of_eq h, root_find, h, min_self]
    split_ifs with hi
    · exact hi.elim id id
    · rfl
  · have hlt : min head (forest.root node) < max head (forest.root node) :=
      min_lt_max.2 (Ne.symm h)
    have hnode := root_root forest node
    have hmax : forest.root (max head (forest.root node)) = max head (forest.root node) := by
      rcases max_choice head (forest.root node) with heq | heq <;> rw [heq] <;> assumption
    have hmin : forest.root (min head (forest.root node)) = min head (forest.root node) := by
      rcases min_choice head (forest.root node) with heq | heq <;> rw [heq] <;> assumption
    have hroot := root_find forest node
    rw [join_of_ne h, root_hang_of_top hlt (by rw [hroot]; exact hmax) (by rw [hroot]; exact hmin),
      hroot]
    rcases le_total head (forest.root node) with hle | hle
    · rw [min_eq_left hle, max_eq_right hle]
      grind
    · rw [min_eq_right hle, max_eq_left hle]
      grind

lemma nodes_join (hhead : head ∈ forest.nodes) (hnode : forest.root node ∈ forest.nodes) :
    (forest.join head node).2.nodes = forest.nodes := by
  by_cases h : forest.root node = head
  · rw [join_of_eq h, nodes_find]
  · rw [join_of_ne h, nodes_hang, nodes_find]
    rw [nodes_find]
    rcases max_choice head (forest.root node) with heq | heq <;> rw [heq] <;> assumption

lemma joinAll_cons (forest : Forest) (head node : ℕ) (more : List ℕ) :
    forest.joinAll head (node :: more) =
      (forest.join head node).2.joinAll (forest.join head node).1 more := rfl

end RepoAtlas.Forest
