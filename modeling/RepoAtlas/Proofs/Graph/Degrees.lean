import RepoAtlas.Graph.Build
import RepoAtlas.Proofs.Graph.Arena
import Mathlib.Algebra.BigOperators.Group.Finset.Basic

/-!
# Edges seen from both ends

Every internal edge stands once among the successors of the node it leaves and once among the
predecessors of the node it enters.  `Neighbourhoods` says what follows for a graph whose internal
edges stay inside: the number of edges from one node to another can be counted at either end, the
edges of a node keep their order, and the degrees on either side add up to the number of edges.

Both kinds of neighbours are rows of a table that is filled in one pass over the edges
(`filled_eq`).
-/

namespace RepoAtlas.DependencyGraph

open List

variable {τ : Type} {graph : DependencyGraph τ}

lemma length_internalPairs (hin : graph.EdgesInside) :
    graph.internalPairs.length = graph.countKind .internal := by
  rw [internalPairs, length_filterMap_eq_countP, countKind]
  refine countP_congr fun edge hedge => ?_
  rw [beq_iff_eq, internalPair?]
  split_ifs with hkind
  · obtain ⟨-, target, htarget, -⟩ := hin edge hedge hkind
    simp [Option.mem_def.1 htarget, hkind]
  · simp [hkind]

/-! ## Counting edges -/

lemma count_successors_eq (graph : DependencyGraph τ) (i j : ℕ) :
    (graph.successors i).count j = graph.edges.countP fun edge =>
      edge.kind = .internal ∧ edge.source = i ∧ edge.target = some j := by
  rw [successors, internalPairs, count_eq_countP, countP_map, countP_filter, countP_filterMap]
  refine countP_congr fun edge _ => ?_
  rw [decide_eq_true_iff, ← internalPair?_eq_some_iff]
  cases internalPair? edge with
  | none => simp
  | some pair =>
      obtain ⟨a, b⟩ := pair
      simp [and_comm]

/-- The targets of a node's internal edges, in the order of the edges. -/
lemma map_some_successors (hin : graph.EdgesInside) (i : ℕ) :
    (graph.successors i).map some =
      (graph.edges.filter fun edge => edge.kind = .internal ∧ edge.source = i).map (·.target) := by
  rw [successors, internalPairs, filter_filterMap, map_filterMap, map_filterMap,
    ← filterMap_eq_map, ← filterMap_eq_filter, filterMap_filterMap]
  refine filterMap_congr fun edge hedge => ?_
  rw [internalPair?]
  by_cases hkind : edge.kind = .internal
  · obtain ⟨-, target, htarget, -⟩ := hin edge hedge hkind
    by_cases hsource : edge.source = i
    · simp [Option.guard, Option.mem_def.1 htarget, hkind, hsource]
    · simp [Option.guard, Option.mem_def.1 htarget, hkind, hsource]
  · simp [Option.guard, hkind]

/-! ## Degrees -/

/-- Numbers below a bound are counted one after the other. -/
lemma sum_count_range {numbers : List ℕ} {bound : ℕ} (h : ∀ i ∈ numbers, i < bound) :
    ∑ i ∈ Finset.range bound, numbers.count i = numbers.length := by
  have hinside : ∀ i ∈ (numbers : Multiset ℕ), i ∈ Finset.range bound :=
    fun i hi => Finset.mem_range.2 (h i hi)
  simpa only [Multiset.coe_count, Multiset.coe_card] using Multiset.sum_count_eq_card hinside

/-- Whichever end of the edges is looked at, every edge is counted at one node. -/
lemma sum_count_ends (hin : graph.EdgesInside) {nodeAt : ℕ × ℕ → ℕ}
    (hend : ∀ pair ∈ graph.internalPairs, nodeAt pair < graph.size) :
    ∑ i ∈ Finset.range graph.size, (graph.internalPairs.map nodeAt).count i =
      graph.countKind .internal := by
  have hinside : ∀ i ∈ graph.internalPairs.map nodeAt, i < graph.size := by
    intro i hi
    obtain ⟨pair, hpair, rfl⟩ := mem_map.1 hi
    exact hend pair hpair
  rw [sum_count_range hinside, length_map, length_internalPairs hin]

lemma outDegree_eq_count (graph : DependencyGraph τ) (i : ℕ) :
    graph.outDegree i = (graph.internalPairs.map (·.1)).count i := by
  rw [outDegree, successors, length_map, ← countP_eq_length_filter, count_eq_countP, countP_map]
  rfl

lemma inDegree_eq_count (graph : DependencyGraph τ) (i : ℕ) :
    graph.inDegree i = (graph.internalPairs.map (·.2)).count i := by
  rw [inDegree, predecessors, length_map, ← countP_eq_length_filter, count_eq_countP, countP_map]
  rfl

lemma sum_outDegree (hin : graph.EdgesInside) :
    ∑ i ∈ Finset.range graph.size, graph.outDegree i = graph.countKind .internal := by
  simp only [outDegree_eq_count]
  exact sum_count_ends hin fun _ himports => (Imports.lt_size hin himports).1

lemma sum_inDegree (hin : graph.EdgesInside) :
    ∑ i ∈ Finset.range graph.size, graph.inDegree i = graph.countKind .internal := by
  simp only [inDegree_eq_count]
  exact sum_count_ends hin fun _ himports => (Imports.lt_size hin himports).2

/-! ## Tables -/

/-- A table with a row per node, to which each pair in turn adds its second number at the end of the
row of its first. -/
def filled (size : ℕ) (pairs : List (ℕ × ℕ)) : List (List ℕ) :=
  pairs.foldl (fun rows pair => rows.modify pair.1 (· ++ [pair.2])) (replicate size [])

lemma filled_eq (size : ℕ) (pairs : List (ℕ × ℕ)) :
    filled size pairs =
      (range size).map fun row => (pairs.filter (·.1 == row)).map (·.2) := by
  induction pairs using reverseRecOn with
  | nil =>
      refine ext_getElem? fun row => ?_
      simp [filled, getElem?_replicate]
  | append_singleton pairs pair ih =>
      have hstep : filled size (pairs ++ [pair]) =
          (filled size pairs).modify pair.1 (· ++ [pair.2]) := by
        rw [filled, foldl_append]
        rfl
      rw [hstep, ih]
      refine ext_getElem? fun row => ?_
      rw [getElem?_modify, getElem?_map, getElem?_map]
      rcases lt_or_ge row size with hlt | hge
      · rw [getElem?_range hlt, Option.map_some, Option.map_some, filter_append, map_append,
          filter_singleton]
        by_cases hrow : pair.1 = row
        · simp [hrow]
        · simp [hrow, beq_false_of_ne hrow]
      · simp [hge]

/-! ## Both ends -/

/-- What is known of the neighbours of the nodes of a graph. -/
structure Neighbourhoods (graph : DependencyGraph τ) : Prop where
  /-- The edges from one node to another can be counted at either end. -/
  counted : ∀ i j, (graph.successors i).count j = (graph.predecessors j).count i ∧
    (graph.successors i).count j = graph.edges.countP fun edge =>
      edge.kind = .internal ∧ edge.source = i ∧ edge.target = some j
  /-- The successors of a node stand in the order of its edges. -/
  inOrder : ∀ i, (graph.successors i).map some =
    (graph.edges.filter fun edge => edge.kind = .internal ∧ edge.source = i).map (·.target)
  /-- One pass over the edges fills a table of the successors, another one a table of the
  predecessors. -/
  tables : (range graph.size).map graph.successors = filled graph.size graph.internalPairs ∧
    (range graph.size).map graph.predecessors =
      filled graph.size (graph.internalPairs.map Prod.swap)
  /-- The degrees on either side add up to the number of edges. -/
  degrees : ∑ i ∈ Finset.range graph.size, graph.inDegree i = graph.countKind .internal ∧
    ∑ i ∈ Finset.range graph.size, graph.outDegree i = graph.countKind .internal

/-- **What a graph says of the neighbours of its nodes** if its internal edges stay inside. -/
lemma EdgesInside.neighbourhoods (hin : graph.EdgesInside) : graph.Neighbourhoods where
  counted i j := ⟨count_successors graph i j, count_successors_eq graph i j⟩
  inOrder := map_some_successors hin
  tables := by
    refine ⟨(filled_eq _ _).symm, ?_⟩
    rw [filled_eq]
    refine map_congr_left fun j _ => ?_
    rw [filter_map, List.map_map]
    rfl
  degrees := ⟨sum_inDegree hin, sum_outDegree hin⟩

end RepoAtlas.DependencyGraph
