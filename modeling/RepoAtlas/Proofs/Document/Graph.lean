import RepoAtlas.Proofs.Document.Records
import RepoAtlas.Proofs.Graph.Arena
import Mathlib.Data.Int.Notation

/-!
# Graphs survive their documents

In memory an edge refers to modules by their numbers, in a document by their paths.  Going there and
back is the identity when the path at each end leads back to its number (`LeadsBack`); where several
nodes have one path, it leads to the last of them.  `DependencyGraph.IsHeld` says this of all edges.
Graphs in arena form are held: edges refer to nodes that exist, and no two nodes have one path, so
that the last node with a path is the only one (`leadsBack_map`).

Depths are entries under paths.  These are texts in an object, so that they have to be texts in
memory as well, and distinct (`GraphAnalysis.IsHeld`).
-/

namespace RepoAtlas

open List

namespace Document

variable {graph : DependencyGraph String}

/-! ## From paths to numbers -/

lemma sameKey_str (a b : String) : sameKey (.str a) (.str b) = (a == b) := by
  rw [Bool.eq_iff_iff]
  simp [sameKey, Value.same]

lemma path?_map (graph : DependencyGraph String) (i : ℕ) :
    (graph.map Value.str).path? i = (graph.path? i).map Value.str := by
  simp only [DependencyGraph.path?, DependencyGraph.map, getElem?_map, Option.map_map]
  rfl

lemma findIdx?_reverse_of_nodup {paths : List String} (hd : paths.Nodup) {i : ℕ} {p : String}
    (h : paths[i]? = some p) : paths.reverse.findIdx? (· == p) = some (paths.length - 1 - i) := by
  obtain ⟨hi, rfl⟩ := List.getElem?_eq_some_iff.1 h
  rw [findIdx?_eq_some_iff_getElem]
  refine ⟨by rw [length_reverse]; omega, ?_, fun j hj hfound => ?_⟩
  · have hback : paths.length - 1 - (paths.length - 1 - i) = i := by omega
    simp only [getElem_reverse, hback, beq_self_eq_true]
  · rw [getElem_reverse, beq_iff_eq] at hfound
    have hsame := hd.getElem_inj_iff.1 hfound
    omega

/-- The path of a node leads the reader to the node's number. -/
def LeadsBack (graph : DependencyGraph Value) (i : ℕ) (p : Value) : Prop :=
  graph.path? i = some p ∧ nodeIndex graph.nodes p = .ok i

/-- **Without repetitions every path leads back.** -/
lemma leadsBack_map (hd : graph.PathsDistinct) {i : ℕ} {p : String}
    (h : graph.path? i = some p) : LeadsBack (graph.map .str) i (.str p) := by
  have hpath : (graph.nodes.map (·.path))[i]? = some p := by
    rw [getElem?_map]
    exact h
  have hfind : (graph.map Value.str).nodes.reverse.findIdx?
      (fun node => sameKey node.path (.str p)) = some (graph.nodes.length - 1 - i) := by
    have hfound := findIdx?_reverse_of_nodup hd hpath
    rw [← map_reverse, findIdx?_map, length_map] at hfound
    simp only [DependencyGraph.map, ← map_reverse, findIdx?_map, Function.comp_def, sameKey_str]
    exact hfound
  have hlength : (graph.map Value.str).nodes.length = graph.nodes.length := length_map _
  have hi : i < graph.nodes.length := by simpa using (List.getElem?_eq_some_iff.1 hpath).1
  refine ⟨by rw [path?_map, h]; rfl, ?_⟩
  simp only [nodeIndex, asKey, isHashable, if_true, bind, Except.bind, hfind, hlength]
  show Except.ok _ = _
  rw [show graph.nodes.length - 1 - (graph.nodes.length - 1 - i) = i by omega]

end Document

/-! ## The form of graphs -/

open Document

/-- The ends of the edge lead back to it.  A path that is null would be taken for no target. -/
structure GraphEdge.IsHeld (graph : DependencyGraph Value) (edge : GraphEdge Value) : Prop where
  source : ∃ p, LeadsBack graph edge.source p
  target : ∀ t ∈ edge.target, ∃ p, p ≠ .null ∧ LeadsBack graph t p
  package : IsPart edge.package

structure DependencyGraph.IsHeld (graph : DependencyGraph Value) : Prop where
  hashable : ∀ node ∈ graph.nodes, isHashable node.path = true
  edges : ∀ edge ∈ graph.edges, edge.IsHeld graph

/-- Depths are given once for each of some texts. -/
def GraphAnalysis.IsHeld (analysis : GraphAnalysis Value) : Prop :=
  ∃ depths : List (String × ℤ), Entries.KeysDistinct depths ∧
    analysis.depths = depths.map fun (p, d) => (.str p, d)

lemma DependencyGraph.isHeld_map {graph : DependencyGraph String} (h : graph.IsArena) :
    (graph.map Value.str).IsHeld where
  hashable := forall_mem_map.2 fun _ _ => rfl
  edges := by
    refine forall_mem_map.2 fun edge hedge => ?_
    obtain ⟨hsource, htarget⟩ := h.inside edge hedge
    have hback : ∀ i < graph.size, ∃ p, LeadsBack (graph.map .str) i (.str p) := by
      intro i hi
      have hpath : graph.path? i = some graph.nodes[i].path := by
        rw [path?, getElem?_eq_getElem hi]
        rfl
      exact ⟨_, leadsBack_map h.distinct hpath⟩
    refine ⟨?_, fun t ht => ?_, isPart_map_str edge.package⟩
    · obtain ⟨p, hp⟩ := hback edge.source hsource
      exact ⟨_, hp⟩
    · obtain ⟨p, hp⟩ := hback t (htarget t ht)
      exact ⟨_, by simp, hp⟩

lemma GraphAnalysis.isHeld_map {analysis : GraphAnalysis String}
    (hd : Entries.KeysDistinct analysis.depths) : (analysis.map Value.str).IsHeld :=
  ⟨analysis.depths, hd, rfl⟩

namespace Document

/-! ## The parts of a graph -/

variable {held : DependencyGraph Value}

/-- The path of a target leads back to it, and no path to none. -/
lemma target_written {target : Option ℕ}
    (h : ∀ t ∈ target, ∃ p, p ≠ .null ∧ LeadsBack held t p) :
    IsPart (target.bind held.path?) ∧
      (target.bind held.path?).mapM (nodeIndex held.nodes) = .ok target := by
  cases target with
  | none => exact ⟨by simp [IsPart], rfl⟩
  | some t =>
      obtain ⟨p, hp, hpath, hindex⟩ := h t rfl
      rw [Option.bind_some, hpath]
      refine ⟨fun hnull => hp (Option.some.inj hnull), ?_⟩
      rw [Option.mapM_some, hindex]
      rfl

/-- **An edge is read back**, its ends by their paths. -/
lemma toEdge_ofEdge {edge : GraphEdge Value} (h : edge.IsHeld held) :
    toEdge held.nodes (ofEdge held edge) = .ok edge := by
  obtain ⟨p, hpath, hindex⟩ := h.source
  obtain ⟨hpart, htarget⟩ := target_written h.target
  have hsource : required (ofEdge held edge) "source" = .ok p := by
    show Except.ok (optional (held.path? edge.source)) = _
    rw [hpath]
    rfl
  have hend : present? (ofEdge held edge) "target" = .ok (edge.target.bind held.path?) :=
    present?_written rfl hpart
  have hkind : named EdgeKind.ofLabel? "EdgeKind" (ofEdge held edge) "kind" = .ok edge.kind :=
    named_written rfl (EdgeKind.ofLabel?_label _)
  have hpackage : present? (ofEdge held edge) "package" = .ok edge.package :=
    present?_written rfl h.package
  simp only [toEdge, hend, hsource, hkind, hpackage, bind, Except.bind, hindex, htarget]
  rfl

/-- Nodes are read back; the numbers that documents give them are not looked at. -/
lemma nodes_written (nodes : List (GraphNode Value)) :
    (nodes.mapIdx ofNode).mapM toNode = .ok nodes := by
  have hnode : ∀ i (node : GraphNode Value), toNode (ofNode i node) = .ok node := by
    rintro i ⟨path, language⟩
    cases language <;> rfl
  rw [mapIdx_eq_zipIdx_map, mapM_map_eq_ok fun pair _ => hnode pair.2 pair.1, zipIdx_map_fst]

lemma hashable_written {nodes : List (GraphNode Value)}
    (h : ∀ node ∈ nodes, isHashable node.path = true) :
    ∃ keys, nodes.mapM (fun node => asKey node.path) = .ok keys :=
  exists_mapM_eq_ok fun node hnode => ⟨node.path, if_pos (h node hnode)⟩

lemma toCycle_written (cycle : Cycle Value) : toCycle (.list cycle.nodes) = .ok cycle := rfl

/-- **Depths are read back.** -/
lemma depths_written {data : Value} {depths : List (String × ℤ)}
    (hdepths : data.get? "depths" = some (ofDepths (depths.map fun (p, d) => (.str p, d))))
    (hd : Entries.KeysDistinct depths) :
    toDepths data = .ok (depths.map fun (p, d) => (.str p, d)) := by
  have hkeys : Entries.KeysDistinct (depths.map fun (p, d) => (Value.str p, Value.int d)) :=
    hd.map fun _ _ heq => Value.str.inj heq
  have hentry : entryOr (.dict []) data "depths" =
      .ok (.dict (depths.map fun (p, d) => (p, .int d))) := by
    rw [entryOr_written hdepths, ofDepths, map_map]
    rfl
  simp only [toDepths, hentry, bind, Except.bind, pairsOf, map_map]
  show (Entries.ofPairs (depths.map fun (p, d) => (Value.str p, Value.int d))).mapM _ = _
  rw [Entries.ofPairs_eq_self hkeys]
  exact mapM_map_eq_ok fun _ _ => rfl

/-- **A graph is read back** with its cycles and depths. -/
lemma toGraph_ofGraph {analysis : GraphAnalysis Value} (h : held.IsHeld)
    (hanalysis : analysis.IsHeld) : toGraph (ofGraph held analysis) = .ok (held, analysis) := by
  obtain ⟨depths, hd, hdepths⟩ := hanalysis
  obtain ⟨keys, hkeys⟩ := hashable_written h.hashable
  have hnodes : each toNode (ofGraph held analysis) "nodes" = .ok held.nodes :=
    nodes_written held.nodes
  have hedges : each (toEdge held.nodes) (ofGraph held analysis) "edges" = .ok held.edges :=
    each_written rfl fun edge hedge => toEdge_ofEdge (h.edges edge hedge)
  have hcycles : each toCycle (ofGraph held analysis) "cycles" = .ok analysis.cycles :=
    each_written rfl fun cycle _ => toCycle_written cycle
  have hread : toDepths (ofGraph held analysis) = .ok analysis.depths := by
    rw [hdepths]
    refine depths_written ?_ hd
    show some (ofDepths analysis.depths) = _
    rw [hdepths]
  simp only [toGraph, hnodes, hkeys, hedges, hcycles, hread, bind, Except.bind]
  rfl

end Document

end RepoAtlas
