import RepoAtlas.Proofs.Graph.Forest
import Mathlib.Data.List.Induction
import Mathlib.Logic.Relation
import Mathlib.Order.Bounds.Basic

/-!
# Clusters are the classes of linked nodes

Two nodes belong together if a chain of walks leads from one to the other, each walk sharing a node
with the next (`SameCluster`).  The trees of the forest that `Forest.ofWalks` grows are exactly the
classes of that relation.  `Forest.Spans` is what is kept while it grows: nodes with the same root
belong together, and the nodes that were joined so far have the same root.

`Partition` says what comes of it: the nodes of the walks are listed once, each with the least node
of its class.  `leaderOf?_eq_iff` is the form in which the depths use it: once a node has a leader,
another node has the same one exactly if the two belong together.
-/

namespace RepoAtlas

open List Relation

variable {walks joined : List (List ℕ)} {walk : List ℕ} {i j : ℕ}

namespace Clusters

/-- Two nodes are on one walk. -/
def Linked (walks : List (List ℕ)) (i j : ℕ) : Prop := ∃ walk ∈ walks, i ∈ walk ∧ j ∈ walk

/-- Two nodes are joined by a chain of walks, each of which shares a node with the next. -/
def SameCluster (walks : List (List ℕ)) : ℕ → ℕ → Prop := TransGen (Linked walks)

lemma SameCluster.of_mem (hwalk : walk ∈ walks) (hi : i ∈ walk) (hj : j ∈ walk) :
    SameCluster walks i j :=
  TransGen.single ⟨walk, hwalk, hi, hj⟩

lemma SameCluster.symm (h : SameCluster walks i j) : SameCluster walks j i := by
  have hlinked : Std.Symm (Linked walks) :=
    ⟨fun _ _ ⟨walk, hwalk, ha, hb⟩ => ⟨walk, hwalk, hb, ha⟩⟩
  exact TransGen.stdSymm.symm _ _ h

lemma SameCluster.mono {more : List (List ℕ)} (h : SameCluster walks i j)
    (hsub : ∀ walk ∈ walks, walk ∈ more) : SameCluster more i j := by
  refine TransGen.mono (fun a b hab => ?_) _ _ h
  obtain ⟨walk, hwalk, ha, hb⟩ := hab
  exact ⟨walk, hsub walk hwalk, ha, hb⟩

lemma SameCluster.exists_walk (h : SameCluster walks i j) : ∃ walk ∈ walks, i ∈ walk := by
  obtain ⟨_, ⟨walk, hwalk, hi, -⟩, -⟩ := TransGen.head'_iff.1 h
  exact ⟨walk, hwalk, hi⟩

end Clusters

/-! ## Growing the forest -/

namespace Forest

open Clusters

variable {forest : Forest} {first node : ℕ}

/-- The forest has the nodes of the walks, its trees are parts of clusters, and the walks that were
joined are parts of trees. -/
structure Spans (walks joined : List (List ℕ)) (forest : Forest) : Prop where
  nodup : forest.nodes.Nodup
  nodes : ∀ i, i ∈ forest.nodes ↔ ∃ walk ∈ walks, i ∈ walk
  sound : ∀ i j, forest.root i = forest.root j → i = j ∨ SameCluster walks i j
  covers : ∀ walk ∈ joined, ∀ i ∈ walk, ∀ j ∈ walk, forest.root i = forest.root j

lemma Spans.root_mem (h : Spans walks joined forest) (hi : i ∈ forest.nodes) :
    forest.root i ∈ forest.nodes := by
  rcases h.sound (forest.root i) i (root_root forest i) with heq | hsame
  · rwa [heq]
  · exact (h.nodes _).2 hsame.exists_walk

lemma Spans.find (h : Spans walks joined forest) (node : ℕ) :
    Spans walks joined (forest.find node).2 := by
  refine ⟨?_, ?_, ?_, ?_⟩
  · rw [nodes_find]
    exact h.nodup
  · rw [nodes_find]
    exact h.nodes
  · rw [root_find]
    exact h.sound
  · rw [root_find]
    exact h.covers

/-! ### Planting a walk -/

lemma root_foldl_plant (forest : Forest) (walk : List ℕ) :
    (walk.foldl plant forest).root = forest.root := by
  induction walk generalizing forest with
  | nil => rfl
  | cons node more ih => rw [foldl_cons, ih, root_plant]

lemma mem_nodes_foldl_plant :
    i ∈ (walk.foldl plant forest).nodes ↔ i ∈ forest.nodes ∨ i ∈ walk := by
  induction walk generalizing forest with
  | nil => simp
  | cons node more ih => rw [foldl_cons, ih, mem_nodes_plant, mem_cons, or_assoc]

lemma nodup_foldl_plant (h : forest.nodes.Nodup) : (walk.foldl plant forest).nodes.Nodup := by
  induction walk generalizing forest with
  | nil => exact h
  | cons node more ih => exact ih (nodup_plant h)

lemma Spans.plant (h : Spans walks walks forest) (walk : List ℕ) :
    Spans (walks ++ [walk]) walks (walk.foldl plant forest) := by
  refine ⟨nodup_foldl_plant h.nodup, fun i => ?_, fun i j hij => ?_, ?_⟩
  · rw [mem_nodes_foldl_plant, h.nodes]
    simp [or_and_right, exists_or]
  · rw [root_foldl_plant] at hij
    exact (h.sound i j hij).imp_right fun hsame => hsame.mono fun _ => mem_append_left _
  · rw [root_foldl_plant]
    exact h.covers

/-! ### Joining a walk -/

section Join

variable (h : Spans walks joined forest) (hwalk : walk ∈ walks) (hfirst : first ∈ walk)

include h hwalk hfirst

/-- Everything in the tree of a node of the walk belongs together with the first node. -/
lemma Spans.sameCluster_first (hnode : node ∈ walk) (hi : forest.root i = forest.root node) :
    SameCluster walks i first := by
  rcases h.sound i node hi with rfl | hsame
  · exact SameCluster.of_mem hwalk hnode hfirst
  · exact hsame.tail ⟨walk, hwalk, hnode, hfirst⟩

/-- **Joining two nodes of a walk** keeps what the forest promises. -/
lemma Spans.join (hnode : node ∈ walk) :
    Spans walks joined (forest.join (forest.root first) node).2 := by
  have hmem : ∀ i ∈ walk, forest.root i ∈ forest.nodes := fun i hi =>
    h.root_mem ((h.nodes i).2 ⟨walk, hwalk, hi⟩)
  have hnodes := nodes_join (hmem first hfirst) (hmem node hnode)
  refine ⟨?_, ?_, fun i j hij => ?_, fun w hw i hi j hj => ?_⟩
  · rw [hnodes]
    exact h.nodup
  · rw [hnodes]
    exact h.nodes
  · have hjoined : ∀ i, forest.root i = forest.root first ∨ forest.root i = forest.root node →
        SameCluster walks i first := by
      rintro i (hi | hi)
      · exact h.sameCluster_first hwalk hfirst hfirst hi
      · exact h.sameCluster_first hwalk hfirst hnode hi
    have hmin : min (forest.root first) (forest.root node) = forest.root first ∨
        min (forest.root first) (forest.root node) = forest.root node := min_choice _ _
    rw [root_join (root_root forest first), root_join (root_root forest first)] at hij
    split_ifs at hij with hi hj hj
    · exact Or.inr ((hjoined i hi).trans (hjoined j hj).symm)
    · exact absurd (hij ▸ hmin) hj
    · exact absurd (hij ▸ hmin) hi
    · exact h.sound i j hij
  · rw [root_join (root_root forest first), root_join (root_root forest first),
      h.covers w hw i hi j hj]

end Join

/-- After a join, the root above both nodes is the one that the join answers with, and nodes that
had the same root still have. -/
lemma root_join_ends (forest : Forest) (first node : ℕ) :
    (forest.join (forest.root first) node).2.root first =
        (forest.join (forest.root first) node).1 ∧
      (forest.join (forest.root first) node).2.root node =
        (forest.join (forest.root first) node).1 ∧
      ∀ i j, forest.root i = forest.root j →
        (forest.join (forest.root first) node).2.root i =
          (forest.join (forest.root first) node).2.root j := by
  have htop := root_root forest first
  refine ⟨?_, ?_, fun i j hij => ?_⟩
  · rw [root_join htop, if_pos (Or.inl rfl), join_fst]
  · rw [root_join htop, if_pos (Or.inr rfl), join_fst]
  · rw [root_join htop, root_join htop, hij]

/-- **Joining the nodes of a walk** one after the other gives them all one root. -/
lemma Spans.joinAll (h : Spans walks joined forest) (hwalk : walk ∈ walks) (hfirst : first ∈ walk)
    {more : List ℕ} (hmore : ∀ node ∈ more, node ∈ walk) :
    Spans walks joined (forest.joinAll (forest.root first) more) ∧
      (∀ node ∈ more, (forest.joinAll (forest.root first) more).root node =
        (forest.joinAll (forest.root first) more).root first) ∧
      ∀ i j, forest.root i = forest.root j →
        (forest.joinAll (forest.root first) more).root i =
          (forest.joinAll (forest.root first) more).root j := by
  induction more generalizing forest with
  | nil => exact ⟨h, fun node hnode => absurd hnode not_mem_nil, fun _ _ hij => hij⟩
  | cons node more ih =>
      obtain ⟨hnode, hmore⟩ := forall_mem_cons.1 hmore
      obtain ⟨hends, hnodeEnds, hkeep⟩ := root_join_ends forest first node
      obtain ⟨hspans, hall, hmono⟩ := ih (h.join hwalk hfirst hnode) hmore
      rw [joinAll_cons, ← hends]
      refine ⟨hspans, forall_mem_cons.2 ⟨hmono _ _ (hnodeEnds.trans hends.symm), hall⟩, ?_⟩
      exact fun i j hij => hmono i j (hkeep i j hij)

/-- **Adding a walk** keeps the trees the clusters of the walks. -/
lemma Spans.addWalk (h : Spans walks walks forest) (walk : List ℕ) :
    Spans (walks ++ [walk]) (walks ++ [walk]) (forest.addWalk walk) := by
  have hplanted := h.plant walk
  cases walk with
  | nil =>
      refine ⟨hplanted.nodup, hplanted.nodes, hplanted.sound, fun w hw => ?_⟩
      rcases mem_append.1 hw with hw | hw
      · exact h.covers w hw
      · rw [mem_singleton.1 hw]
        exact fun i hi => absurd hi not_mem_nil
  | cons first more =>
      have hwalk : first :: more ∈ walks ++ [first :: more] := by simp
      have hfound := hplanted.find first
      obtain ⟨hspans, hall, -⟩ :=
        hfound.joinAll hwalk mem_cons_self fun node hnode => mem_cons_of_mem first hnode
      have heq : forest.addWalk (first :: more) =
          (((first :: more).foldl Forest.plant forest).find first).2.joinAll
            ((((first :: more).foldl Forest.plant forest).find first).2.root first) more := by
        rw [root_find, ← find_fst]
        rfl
      rw [← heq] at hspans hall
      refine ⟨hspans.nodup, hspans.nodes, hspans.sound, fun w hw => ?_⟩
      rcases mem_append.1 hw with hw | hw
      · exact hspans.covers w hw
      · have hroot : ∀ i ∈ w, (forest.addWalk (first :: more)).root i =
            (forest.addWalk (first :: more)).root first := by
          rw [mem_singleton.1 hw]
          exact forall_mem_cons.2 ⟨rfl, hall⟩
        exact fun i hi j hj => (hroot i hi).trans (hroot j hj).symm

lemma spans_ofWalks (walks : List (List ℕ)) : Spans walks walks (ofWalks walks) := by
  induction walks using reverseRecOn with
  | nil =>
      refine ⟨nodup_nil, by simp [ofWalks, empty, Forest.nodes], fun i j hij => Or.inl ?_, by simp⟩
      have htop : ∀ i, empty.root i = i := fun i => root_of_top rfl
      exact (htop i).symm.trans (hij.trans (htop j))
  | append_singleton walks walk ih =>
      rw [ofWalks, foldl_append]
      exact ih.addWalk walk

/-- **Nodes have the same root exactly if they belong together.** -/
lemma root_eq_root_iff (hi : ∃ walk ∈ walks, i ∈ walk) :
    (ofWalks walks).root i = (ofWalks walks).root j ↔ SameCluster walks i j := by
  have hspans := spans_ofWalks walks
  constructor
  · intro hij
    rcases hspans.sound i j hij with rfl | hsame
    · obtain ⟨walk, hwalk, hi⟩ := hi
      exact SameCluster.of_mem hwalk hi hi
    · exact hsame
  · intro hsame
    induction hsame with
    | single hlink =>
        obtain ⟨walk, hwalk, ha, hb⟩ := hlink
        exact hspans.covers walk hwalk _ ha _ hb
    | tail _ hlink ih =>
        obtain ⟨walk, hwalk, ha, hb⟩ := hlink
        exact ih.trans (hspans.covers walk hwalk _ ha _ hb)

end Forest

/-! ## Leaders -/

namespace Clusters

variable {clusters : Clusters} {leader : ℕ}

/-- The clusters of some walks: every node of a walk is listed once, with the least of the nodes
that it belongs together with. -/
structure Partition (walks : List (List ℕ)) (clusters : Clusters) : Prop where
  distinct : Entries.KeysDistinct clusters
  nodes : ∀ i, i ∈ clusters.map (·.1) ↔ ∃ walk ∈ walks, i ∈ walk
  least : ∀ i leader, (i, leader) ∈ clusters → IsLeast {j | SameCluster walks i j} leader

lemma ofWalks_eq (walks : List (List ℕ)) : ofWalks walks =
    (Forest.ofWalks walks).nodes.map fun i => (i, (Forest.ofWalks walks).root i) :=
  Forest.roots_eq _ _

/-- **The clusters of some walks are a partition of their nodes.** -/
lemma partition_ofWalks (walks : List (List ℕ)) : Partition walks (ofWalks walks) := by
  have hspans := Forest.spans_ofWalks walks
  have hkeys : (ofWalks walks).map (·.1) = (Forest.ofWalks walks).nodes := by
    rw [ofWalks_eq, List.map_map]
    exact map_id _
  refine ⟨?_, fun i => ?_, fun i leader hmem => ?_⟩
  · rw [Entries.KeysDistinct, hkeys]
    exact hspans.nodup
  · rw [hkeys, hspans.nodes]
  · rw [ofWalks_eq] at hmem
    obtain ⟨i, hi, heq⟩ := mem_map.1 hmem
    obtain ⟨rfl, rfl⟩ := Prod.mk.inj heq
    have hwalk := (hspans.nodes i).1 hi
    refine ⟨?_, fun j hj => ?_⟩
    · exact (Forest.root_eq_root_iff hwalk).1 (Forest.root_root _ i).symm
    · rw [(Forest.root_eq_root_iff hwalk).2 hj]
      exact Forest.root_le _ j

section Partition

variable (h : Partition walks clusters)

include h

lemma leaderOf?_eq_some_iff : leaderOf? clusters i = some leader ↔ (i, leader) ∈ clusters :=
  h.distinct.lookup_eq_some_iff

lemma leaderOf?_isSome_iff :
    (leaderOf? clusters i).isSome = true ↔ ∃ walk ∈ walks, i ∈ walk := by
  rw [leaderOf?, Entries.lookup_isSome_iff_mem, h.nodes]

/-- The leader of a cluster belongs to it, and the leaders of nodes that belong together are the
same. -/
lemma Partition.eq_iff {m l : ℕ} (hi : (i, m) ∈ clusters) (hj : (j, l) ∈ clusters) :
    m = l ↔ SameCluster walks i j := by
  have hm := h.least i m hi
  have hl := h.least j l hj
  constructor
  · rintro rfl
    exact hm.1.trans (SameCluster.symm hl.1)
  · intro hsame
    have hset : {k | SameCluster walks i k} = {k | SameCluster walks j k} :=
      Set.ext fun k => ⟨hsame.symm.trans, hsame.trans⟩
    exact IsLeast.unique hm (hset ▸ hl)

/-- **Nodes have the same leader exactly if they belong together.** -/
lemma leaderOf?_eq_iff {l : ℕ} (hj : leaderOf? clusters j = some l) :
    leaderOf? clusters i = some l ↔ SameCluster walks i j := by
  have hmemj := (leaderOf?_eq_some_iff h).1 hj
  constructor
  · intro hi
    exact (h.eq_iff ((leaderOf?_eq_some_iff h).1 hi) hmemj).1 rfl
  · intro hsame
    obtain ⟨m, hm⟩ := Option.isSome_iff_exists.1 ((leaderOf?_isSome_iff h).2 hsame.exists_walk)
    rw [hm, (h.eq_iff ((leaderOf?_eq_some_iff h).1 hm) hmemj).2 hsame]

end Partition

/-- **Clusters are known by their least nodes.**  The nodes of the walks, and no others, are listed
once each; two of them have the same leader exactly if a chain of walks joins them, and the leader
is the least node to which such a chain leads. -/
theorem clusters_are_known_by_their_least_nodes (walks : List (List ℕ)) :
    ((ofWalks walks).map (·.1)).Nodup ∧
      (∀ i, i ∈ (ofWalks walks).map (·.1) ↔ ∃ walk ∈ walks, i ∈ walk) ∧
      (∀ i leader j other, (i, leader) ∈ ofWalks walks → (j, other) ∈ ofWalks walks →
        (leader = other ↔ SameCluster walks i j)) ∧
      ∀ i leader, (i, leader) ∈ ofWalks walks → IsLeast {j | SameCluster walks i j} leader := by
  have h := partition_ofWalks walks
  exact ⟨h.distinct, h.nodes, fun i leader j other hi hj => h.eq_iff hi hj, h.least⟩

/-- The third walk joins the other two, whose nodes then hang under two different parents. -/
example : ofWalks [[4, 2, 4], [3, 1, 3], [4, 5, 3, 4]] =
    [(4, 1), (2, 1), (3, 1), (1, 1), (5, 1)] := by decide

end Clusters

end RepoAtlas
