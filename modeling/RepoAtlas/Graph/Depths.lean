import RepoAtlas.Data.Entries
import RepoAtlas.Graph.Clusters
import RepoAtlas.Graph.Cycles

/-!
# Depths of modules

The depth of a module says how far it is from a module that nobody imports. Once the edges of all
cycles are set aside, a module that is on no cycle lies one deeper than the deepest of its
importers, and a module of a cluster lies as deep as the shallowest importer outside the cluster;
either is 0 if there is no such importer.

Depths are settled one module at a time, always the lowest-numbered one whose importers are all
settled. For every module it is counted how many edges lead to it from modules that are not settled
yet, and a module is ready when none is left. If the ready modules run out before all modules had
their turn, the edges that were not set aside contain a cycle, and there are no depths.
-/

namespace RepoAtlas

namespace Depths

/-- A node with the nodes that import it. -/
structure Unsettled where
  node : Nat
  importers : List Nat
deriving DecidableEq, Repr

/-- The depths that are known, the latest first. -/
abbrev Settled := List (Nat × Nat)

def belowAll (settled : Settled) (importers : List Nat) : Nat :=
  ((importers.map fun i => (settled.lookup i).getD 0 + 1).max?).getD 0

/-- The depth of a node of a cluster, given its importers outside. -/
def besideNearest (settled : Settled) (outside : List Nat) : Nat :=
  ((outside.map fun i => (settled.lookup i).getD 0).min?).getD 0

/-- The depth of a node all of whose importers are settled. -/
def depthOf (clusters : Clusters) (settled : Settled) (item : Unsettled) : Nat :=
  match Clusters.leaderOf? clusters item.node with
  | some leader =>
    besideNearest settled <|
      item.importers.filter fun i => Clusters.leaderOf? clusters i != some leader
  | none => belowAll settled item.importers

/-- A sweep over the nodes between two turns. -/
structure Sweep where
  settled : Settled
  /-- For every node, how many edges lead to it from nodes that are not settled. -/
  counts : List Nat
  /-- The nodes that wait for nothing but their turn. -/
  ready : List Nat
deriving DecidableEq, Repr

namespace Sweep

/-- The sweep before its first turn. -/
def start (size : Nat) (importers : Nat → List Nat) : Sweep where
  settled := []
  counts := (List.range size).map fun node => (importers node).length
  ready := (List.range size).filter fun node => (importers node).length == 0

/-- Counts one edge to a node less. With the last of them the node is ready. -/
def release (sweep : Sweep) (node : Nat) : Sweep :=
  let count := sweep.counts.getD node 0 - 1
  { sweep with
    counts := sweep.counts.set node count
    ready := if count = 0 then node :: sweep.ready else sweep.ready }

/-- The turn of a ready node: it is settled, and the edges that leave it are not counted any more,
an edge as often as it is there. -/
def take (clusters : Clusters) (importers imported : Nat → List Nat) (sweep : Sweep) (node : Nat) :
    Sweep :=
  (imported node).foldl release
    ⟨(node, depthOf clusters sweep.settled ⟨node, importers node⟩) :: sweep.settled, sweep.counts,
      sweep.ready.erase node⟩

/-- Up to `turns` turns, each the turn of the lowest-numbered ready node. -/
def run (clusters : Clusters) (importers imported : Nat → List Nat) : (turns : Nat) → Sweep → Sweep
  | 0, sweep => sweep
  | turns + 1, sweep =>
    match sweep.ready.min? with
    | none => sweep
    | some node =>
      run clusters importers imported turns (sweep.take clusters importers imported node)

end Sweep

/-- The depths of the nodes below `size`, if every node gets its turn. No node gets a second one, so
`size` turns are enough. -/
def sweep (clusters : Clusters) (size : Nat) (importers imported : Nat → List Nat) :
    Option Settled :=
  let settled := (Sweep.run clusters importers imported size (.start size importers)).settled
  if settled.length = size then some settled else none

end Depths

namespace DependencyGraph

/-- The depth of every module by its path, when the walks are the cycles and the edges in `aside`
are set aside; `none` if the other edges contain a cycle. -/
def depthsWith (graph : DependencyGraph String) (walks : List (List Nat))
    (aside : List (Nat × Nat)) : Option (List (String × Int)) :=
  let pairs := graph.internalPairs.filter (!aside.contains ·)
  let importers := fun node => (pairs.filter (·.2 == node)).map (·.1)
  let imported := fun node => (pairs.filter (·.1 == node)).map (·.2)
  (Depths.sweep (Clusters.ofWalks walks) graph.size importers imported).map fun settled =>
    Entries.ofPairs <| graph.nodes.mapIdx fun node item =>
      (item.path, ((settled.lookup node).getD 0 : Int))

end DependencyGraph

/-- The cycles of a graph and the depths of its modules. -/
structure GraphAnalysis (τ : Type) where
  cycles : List (Cycle τ)
  depths : List (τ × Int)
deriving DecidableEq, Repr

namespace GraphAnalysis

/-- An analysis of nothing. -/
def empty {τ : Type} : GraphAnalysis τ := ⟨[], []⟩

def map {τ υ : Type} (text : τ → υ) (analysis : GraphAnalysis τ) : GraphAnalysis υ where
  cycles := analysis.cycles.map fun cycle => ⟨cycle.nodes.map text⟩
  depths := analysis.depths.map fun (path, depth) => (text path, depth)

end GraphAnalysis

/-- Depths were asked for although the edges that are not set aside contain a cycle. -/
structure CyclicRemainder where
deriving DecidableEq, Repr

def CyclicRemainder.message (_ : CyclicRemainder) : String :=
  "non-cycle edges do not form a DAG"

namespace DependencyGraph

/-- The cycles of a graph and the depths of its modules. -/
def analyze (graph : DependencyGraph String) :
    Except CyclicRemainder (GraphAnalysis String) :=
  let report := graph.findCycles
  match graph.depthsWith report.walks report.pairs with
  | none => .error {}
  | some depths =>
    .ok ⟨report.walks.map fun walk => ⟨walk.filterMap graph.path?⟩, depths⟩

end DependencyGraph

end RepoAtlas
