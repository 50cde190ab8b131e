import RepoAtlas.Graph.Basic
import Mathlib.Data.List.Basic
import Mathlib.Data.List.Nodup
import Mathlib.Tactic.Lemma

/-!
# Graphs in arena form

Nodes are known by their places in the list, so a graph is only as good as the numbers in its edges.
`EdgesInside` is what the analyses rely on: internal edges lead from a node to a node.  `IsArena` is
what the form in memory promises of every edge, and that no two nodes have one path.

`Imports` is the relation that the internal edges make, and `without` takes edges out of a graph.
-/

namespace RepoAtlas.DependencyGraph

variable {τ : Type} {graph : DependencyGraph τ}

lemma internalPair?_eq_some_iff {edge : GraphEdge τ} {i j : ℕ} : internalPair? edge = some (i, j) ↔
    edge.kind = .internal ∧ edge.source = i ∧ edge.target = some j := by
  rw [internalPair?, Option.ite_none_right_eq_some, Option.map_eq_some_iff]
  simp [and_left_comm, and_comm]

def Imports (graph : DependencyGraph τ) (i j : ℕ) : Prop := (i, j) ∈ graph.internalPairs

lemma mem_successors {i j : ℕ} : j ∈ graph.successors i ↔ graph.Imports i j := by
  simp [successors, Imports]

lemma mem_predecessors {i j : ℕ} : i ∈ graph.predecessors j ↔ graph.Imports i j := by
  simp [predecessors, Imports]

/-! ## Forms of graphs -/

/-- Every internal edge leads from a node to a node. -/
def EdgesInside (graph : DependencyGraph τ) : Prop :=
  ∀ edge ∈ graph.edges, edge.kind = .internal →
    edge.source < graph.size ∧ ∃ target ∈ edge.target, target < graph.size

instance (graph : DependencyGraph τ) : Decidable graph.EdgesInside :=
  inferInstanceAs (Decidable (∀ edge ∈ graph.edges, edge.kind = .internal →
    edge.source < graph.size ∧ ∃ target ∈ edge.target, target < graph.size))

def PathsDistinct (graph : DependencyGraph τ) : Prop := (graph.nodes.map (·.path)).Nodup

instance [DecidableEq τ] (graph : DependencyGraph τ) : Decidable graph.PathsDistinct :=
  inferInstanceAs (Decidable (graph.nodes.map (·.path)).Nodup)

/-- The form of a graph in memory: no two nodes have the same path, and the ends of every edge that
are given are nodes. -/
structure IsArena (graph : DependencyGraph τ) : Prop where
  distinct : graph.PathsDistinct
  inside : ∀ edge ∈ graph.edges,
    edge.source < graph.size ∧ ∀ target ∈ edge.target, target < graph.size

lemma isArena_empty : (empty : DependencyGraph τ).IsArena := by
  refine ⟨List.nodup_nil, fun edge hedge => ?_⟩
  cases hedge

lemma Imports.lt_size (hin : graph.EdgesInside) {i j : ℕ} (h : graph.Imports i j) :
    i < graph.size ∧ j < graph.size := by
  obtain ⟨edge, hedge, hpair⟩ := List.mem_filterMap.1 h
  obtain ⟨hkind, rfl, htarget⟩ := internalPair?_eq_some_iff.1 hpair
  obtain ⟨hsource, j, hj, hlt⟩ := hin edge hedge hkind
  obtain rfl := Option.some.inj (htarget.symm.trans hj)
  exact ⟨hsource, hlt⟩

/-! ## Taking edges out -/

/-- The graph without the internal edges between certain pairs of nodes. -/
def without (graph : DependencyGraph τ) (aside : List (ℕ × ℕ)) : DependencyGraph τ where
  nodes := graph.nodes
  edges := graph.edges.filter fun edge => !(internalPair? edge).any aside.contains

lemma internalPairs_without (graph : DependencyGraph τ) (aside : List (ℕ × ℕ)) :
    (graph.without aside).internalPairs = graph.internalPairs.filter (!aside.contains ·) := by
  simp only [internalPairs, without, List.filterMap_filter, List.filter_filterMap]
  refine List.filterMap_congr fun edge _ => ?_
  cases internalPair? edge with
  | none => rfl
  | some pair => simp [Option.filter]

lemma imports_without {aside : List (ℕ × ℕ)} {i j : ℕ} :
    (graph.without aside).Imports i j ↔ graph.Imports i j ∧ (i, j) ∉ aside := by
  simp [Imports, internalPairs_without]

lemma EdgesInside.without (hin : graph.EdgesInside) (aside : List (ℕ × ℕ)) :
    (graph.without aside).EdgesInside := by
  intro edge hedge hkind
  exact hin edge (List.mem_of_mem_filter hedge) hkind

end RepoAtlas.DependencyGraph
