import RepoAtlas.Concept.Surroundings
import RepoAtlas.Proofs.Graph.Construction
import RepoAtlas.Proofs.Graph.Degrees

/-!
# Who imports whom

Rules do not look at edges but at paths: they ask who imports a module and what it imports, or go
through all pairs of paths.  All of these answers are one relation, `DependencyGraph.Links`: some
internal edge leads from the one path to the other.

The relation forgets how many edges there are, and so do the lists of importers, which ascend and
have no path twice (`ascending_importers`).  It does not forget edges that lead back to where they
start, so a module may be among its own importers.

The edges themselves are counted in the graph, where they can be counted at either end.
`neighbours_are_seen_from_both_ends` puts the two together.
-/

namespace RepoAtlas

open List

namespace DependencyGraph

variable {graph : DependencyGraph String} {source target : String}

/-- An internal edge leads from one path to another. -/
def Links (graph : DependencyGraph String) (source target : String) : Prop :=
  ∃ edge ∈ graph.edges, edge.kind = .internal ∧ graph.path? edge.source = some source ∧
    edge.target.bind graph.path? = some target

instance (graph : DependencyGraph String) (source target : String) :
    Decidable (graph.Links source target) :=
  inferInstanceAs (Decidable (∃ _ ∈ _, _))

lemma links_iff : graph.Links source target ↔
    ∃ i j, graph.Imports i j ∧ graph.path? i = some source ∧ graph.path? j = some target := by
  constructor
  · rintro ⟨edge, hedge, hkind, hsource, htarget⟩
    obtain ⟨j, hj, htarget⟩ := Option.bind_eq_some_iff.1 htarget
    refine ⟨edge.source, j, mem_filterMap.2 ⟨edge, hedge, ?_⟩, hsource, htarget⟩
    exact internalPair?_eq_some_iff.2 ⟨hkind, rfl, hj⟩
  · rintro ⟨i, j, himports, hsource, htarget⟩
    obtain ⟨edge, hedge, hpair⟩ := mem_filterMap.1 himports
    obtain ⟨hkind, rfl, hj⟩ := internalPair?_eq_some_iff.1 hpair
    exact ⟨edge, hedge, hkind, hsource, by rw [hj]; exact htarget⟩

/-- Both ends of a link are nodes. -/
lemma Links.mem_paths (h : graph.Links source target) :
    source ∈ graph.nodes.map (·.path) ∧ target ∈ graph.nodes.map (·.path) := by
  obtain ⟨i, j, -, hsource, htarget⟩ := links_iff.1 h
  rw [path?_eq_getElem?] at hsource htarget
  exact ⟨mem_of_getElem? hsource, mem_of_getElem? htarget⟩

/-- With distinct paths, the node that is found for a path is the only one. -/
lemma path?_eq_some_iff (hd : graph.PathsDistinct) {path : String} {node : ℕ} :
    graph.path? node = some path ↔ graph.indexOf? path = some node := by
  constructor
  · intro hpath
    rw [path?_eq_getElem?] at hpath
    obtain ⟨found, hfound, hsame⟩ := exists_indexOf? (mem_of_getElem? hpath)
    rw [path?_eq_getElem?, ← hpath] at hsame
    obtain ⟨hlt, -⟩ := List.getElem?_eq_some_iff.1 (hsame.trans hpath)
    rw [hfound, (getElem?_inj hlt hd).1 hsame]
  · intro hindex
    obtain ⟨hlt, hpath, -⟩ := findIdx?_eq_some_iff_getElem.1 hindex
    rw [path?, getElem?_eq_getElem hlt, Option.map_some, eq_of_beq hpath]

lemma links_iff_indexOf? (hd : graph.PathsDistinct) : graph.Links source target ↔
    ∃ i j, graph.Imports i j ∧ graph.indexOf? source = some i ∧
      graph.indexOf? target = some j := by
  simp only [links_iff, path?_eq_some_iff hd]

end DependencyGraph

namespace Surroundings

variable {here : Surroundings} {source target path : String}

/-- **The pairs of paths are the links.** -/
lemma mem_internalPairs : (source, target) ∈ here.internalPairs ↔
    here.graph.Links source target := by
  rw [internalPairs, mem_filterMap, DependencyGraph.links_iff]
  constructor
  · rintro ⟨⟨i, j⟩, himports, hpair⟩
    obtain ⟨_, hsource, hpair⟩ := Option.bind_eq_some_iff.1 hpair
    obtain ⟨_, htarget, hpair⟩ := Option.bind_eq_some_iff.1 hpair
    cases hpair
    exact ⟨i, j, himports, hsource, htarget⟩
  · rintro ⟨i, j, himports, hsource, htarget⟩
    refine ⟨(i, j), himports, ?_⟩
    simp only [hsource, htarget]
    rfl

lemma mem_pathsOf {nodes : List ℕ} :
    path ∈ here.pathsOf nodes ↔ ∃ node ∈ nodes, here.graph.path? node = some path := by
  rw [pathsOf, Naming.mem_ascending, mem_filterMap]

/-- **The importers of a module are those that link to it.** -/
lemma mem_importers (hd : here.graph.PathsDistinct) :
    source ∈ here.importers target ↔ here.graph.Links source target := by
  rw [DependencyGraph.links_iff_indexOf? hd, importers]
  cases here.graph.indexOf? target with
  | none => simp
  | some node =>
      simp [mem_pathsOf, DependencyGraph.path?_eq_some_iff hd, DependencyGraph.mem_predecessors,
        and_comm]

/-- **What a module imports is what it links to.** -/
lemma mem_imported (hd : here.graph.PathsDistinct) :
    target ∈ here.imported source ↔ here.graph.Links source target := by
  rw [DependencyGraph.links_iff_indexOf? hd, imported]
  cases here.graph.indexOf? source with
  | none => simp
  | some node =>
      simp [mem_pathsOf, DependencyGraph.path?_eq_some_iff hd, DependencyGraph.mem_successors]

/-- Modules that are in order stay as they are. -/
lemma ofModules_of_ascending {modules : List SourceModule}
    (h : Ascending ModuleOutline.path modules) (graph : DependencyGraph String)
    (analysis : GraphAnalysis String) (manifest : ManifestInfo String) :
    ofModules modules graph analysis manifest = ⟨modules, graph, analysis, manifest⟩ := by
  have horder : modules.mergeSort (fun a b => a.path ≤ b.path) = modules := h.byKey_eq
  rw [ofModules, horder]

/-! ## Both directions -/

lemma ascending_importers (path : String) : Ascending id (here.importers path) := by
  unfold importers
  split
  · exact ascending_names _
  · exact Pairwise.nil

lemma ascending_imported (path : String) : Ascending id (here.imported path) := by
  unfold imported
  split
  · exact ascending_names _
  · exact Pairwise.nil

lemma nodup_importers (path : String) : (here.importers path).Nodup := by
  simpa using (ascending_importers path).nodup_keys

lemma nodup_imported (path : String) : (here.imported path).Nodup := by
  simpa using (ascending_imported path).nodup_keys

/-- **Both directions tell of the same edges.**  As long as the internal edges stay inside, nodes
have the neighbours that the edges give them, with repetitions.  Importers and imports forget the
repetitions: with distinct paths, both are the one relation `Links`, and their lists ascend. -/
theorem neighbours_are_seen_from_both_ends (here : Surroundings) (hin : here.graph.EdgesInside) :
    here.graph.Neighbourhoods ∧
      (here.graph.PathsDistinct → ∀ source target,
        (source ∈ here.importers target ↔ target ∈ here.imported source) ∧
          (source ∈ here.importers target ↔ here.graph.Links source target)) ∧
      ∀ path, (here.importers path).Pairwise (· < ·) ∧ (here.imported path).Pairwise (· < ·) := by
  refine ⟨hin.neighbourhoods, fun hd source target => ?_, fun path => ?_⟩
  · have himporters : source ∈ here.importers target ↔ here.graph.Links source target :=
      mem_importers hd
    exact ⟨himporters.trans (mem_imported hd).symm, himporters⟩
  · exact ⟨ascending_importers path, ascending_imported path⟩

/-- A module that imports another one twice and a package in between, and the other one itself. -/
def parallelImports : DependencyGraph String where
  nodes := ["cli.js", "core.js"].map fun path => ⟨path, .javaScript⟩
  edges := [⟨0, .internal, "./core", 1, some 1, none⟩,
    ⟨0, .external, "react", 2, none, some "react"⟩,
    ⟨0, .internal, "./core.js", 3, some 1, none⟩, ⟨1, .internal, "./core", 1, some 1, none⟩]

theorem parallelImports_seen_from_both_ends :
    let here : Surroundings := ⟨[], parallelImports, .empty, .empty⟩
    here.graph.EdgesInside ∧ here.graph.Neighbourhoods ∧
      ("cli.js" ∈ here.importers "core.js" ↔ "core.js" ∈ here.imported "cli.js") ∧
        (here.importers "core.js").Pairwise (· < ·) := by
  intro here
  have hin : here.graph.EdgesInside := by decide
  obtain ⟨hcounts, hlinks, hascending⟩ := neighbours_are_seen_from_both_ends here hin
  exact ⟨hin, hcounts, (hlinks (by decide) _ _).1, (hascending _).1⟩

end Surroundings

/-- A module of which only the path and the targets of its imports matter. -/
def importing (path : String) (targets : List String) : SourceModule where
  path := path
  language := .javaScript
  grammar := "javascript"
  functions := []
  classes := []
  imports := targets.map fun target => ⟨target, [], ⟨1, 1⟩, false⟩
  exports := []
  routes := []
  hasMainGuard := false

end RepoAtlas
