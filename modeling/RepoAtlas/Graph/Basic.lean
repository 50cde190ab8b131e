import RepoAtlas.Language

/-!
# The dependency graph

Nodes are the modules of a run, numbered by their place in the list; edges are their imports. An
edge is *internal* when it leads to another node, *external* when it leads to a package, and
*unresolved* otherwise. All analyses look at the internal edges only, as pairs of node numbers: what
is imported twice is a pair that occurs twice.

Documents hold graphs as well, and in them a path is any value; hence the parameter `τ`.
-/

namespace RepoAtlas

/-- What an import leads to. -/
inductive EdgeKind where
  | internal
  | external
  | unresolved
deriving DecidableEq, Repr, Inhabited

namespace EdgeKind

def all : List EdgeKind := [.internal, .external, .unresolved]

def label : EdgeKind → String
  | .internal => "Internal"
  | .external => "External"
  | .unresolved => "Unresolved"

def ofLabel? (label : String) : Option EdgeKind := all.find? (·.label == label)

theorem ofLabel?_label (kind : EdgeKind) : ofLabel? kind.label = some kind := by
  cases kind <;> decide

end EdgeKind

/-- A module of the graph. -/
structure GraphNode (τ : Type) where
  path : τ
  language : Language
deriving DecidableEq, Repr

/-- An import. -/
structure GraphEdge (τ : Type) where
  source : Nat
  kind : EdgeKind
  /-- The target as it is written in the import. -/
  specifier : τ
  line : Int
  target : Option Nat
  package : Option τ
deriving DecidableEq, Repr

/-- The modules of a run and their imports. -/
structure DependencyGraph (τ : Type) where
  nodes : List (GraphNode τ)
  edges : List (GraphEdge τ)
deriving DecidableEq, Repr

/-- A closed walk over paths: its first and last entries are equal. -/
structure Cycle (τ : Type) where
  nodes : List τ
deriving DecidableEq, Repr

namespace Cycle

/-- The paths on the cycle, the repetition at the end left out. -/
def members {τ : Type} (cycle : Cycle τ) : List τ := cycle.nodes.dropLast

end Cycle

namespace DependencyGraph

variable {τ υ : Type}

def empty : DependencyGraph τ := ⟨[], []⟩

def map (text : τ → υ) (graph : DependencyGraph τ) : DependencyGraph υ where
  nodes := graph.nodes.map fun node => ⟨text node.path, node.language⟩
  edges := graph.edges.map fun edge =>
    ⟨edge.source, edge.kind, text edge.specifier, edge.line, edge.target, edge.package.map text⟩

def size (graph : DependencyGraph τ) : Nat := graph.nodes.length

def path? (graph : DependencyGraph τ) (node : Nat) : Option τ := graph.nodes[node]?.map (·.path)

def indexOf? [BEq τ] (graph : DependencyGraph τ) (path : τ) : Option Nat :=
  graph.nodes.findIdx? (·.path == path)

def internalPair? (edge : GraphEdge τ) : Option (Nat × Nat) :=
  if edge.kind = .internal then edge.target.map (edge.source, ·) else none

/-- The ends of all internal edges in edge order, with repetitions. -/
def internalPairs (graph : DependencyGraph τ) : List (Nat × Nat) :=
  graph.edges.filterMap internalPair?

/-- The nodes that a node imports, in edge order, with repetitions. -/
def successors (graph : DependencyGraph τ) (node : Nat) : List Nat :=
  (graph.internalPairs.filter (·.1 == node)).map (·.2)

/-- The nodes that import a node, in edge order, with repetitions. -/
def predecessors (graph : DependencyGraph τ) (node : Nat) : List Nat :=
  (graph.internalPairs.filter (·.2 == node)).map (·.1)

def inDegree (graph : DependencyGraph τ) (node : Nat) : Nat := (graph.predecessors node).length

def outDegree (graph : DependencyGraph τ) (node : Nat) : Nat := (graph.successors node).length

/-- How often one node imports another can be counted at either end. -/
theorem count_successors (graph : DependencyGraph τ) (i j : Nat) :
    (graph.successors i).count j = (graph.predecessors j).count i := by
  simp only [successors, predecessors]
  induction graph.internalPairs with
  | nil => rfl
  | cons pair more ih =>
    obtain ⟨a, b⟩ := pair
    by_cases ha : a = i <;> by_cases hb : b = j <;> simp_all

end DependencyGraph

end RepoAtlas
