import RepoAtlas.Proofs.Concept.Discovery
import RepoAtlas.Proofs.Concept.Sightings
import RepoAtlas.Proofs.Run.Accounts
import RepoAtlas.Proofs.Run.WellFormed
import RepoAtlas.Proofs.Syntax.Ranges

/-!
# Runs with the library's own rules return

What comes after the harvest may go wrong in several ways: two modules may have one path, the edges
that are not on cycles may contain a cycle after all, and a rule may fail.  None of this happens to
the outlines of a harvest, whatever trees they were read off, as long as no rule is added by a
plugin.

Stages also look things up, in the graph and in what was made of it, and go on with less if there is
nothing.  `Surroundings.IsComplete` says that there always is something, and
`Concept.IsSoundFor` says it of the evidence.  So a run leaves nothing out either.
-/

namespace RepoAtlas

open List

/-- Whatever the stages of charting look up is there. -/
structure Surroundings.IsComplete (here : Surroundings) : Prop where
  /-- Every module is a node, and it is found by its path. -/
  nodes : ∀ module ∈ here.modules, ∃ node,
    here.graph.indexOf? module.path = some node ∧ here.graph.path? node = some module.path
  sources : ∀ edge ∈ here.graph.edges, (here.graph.path? edge.source).isSome
  /-- Internal edges have a target, other edges have none, and every target is a node. -/
  targets : ∀ edge ∈ here.graph.edges, (edge.kind = .internal ↔ edge.target.isSome) ∧
    ∀ target ∈ edge.target, (here.graph.path? target).isSome
  /-- The walks that are reported have at least one step, and they lead from node to node. -/
  walks : ∀ walk ∈ here.graph.findCycles.walks,
    2 ≤ walk.length ∧ ∀ node ∈ walk, (here.graph.path? node).isSome
  depths : ∀ module ∈ here.modules, (here.analysis.depths.lookup module.path).isSome

namespace DependencyGraph

variable {modules : List SourceModule} {packages : Packages} {graph : DependencyGraph String}

/-- **Nothing is missing from a built graph and its analysis.** -/
lemma isComplete_ofOrdered {analysis : GraphAnalysis String}
    (hpaths : (modules.map (·.path)).Nodup) (manifest : ManifestInfo String)
    (hanalyze : (ofOrdered (inPathOrder modules) packages).analyze = .ok analysis) :
    (Surroundings.ofModules modules (ofOrdered (inPathOrder modules) packages) analysis
      manifest).IsComplete := by
  have hin := edgesInside_ofOrdered (inPathOrder modules) packages
  have hnodes := paths_ofOrdered (inPathOrder modules) packages
  have hsize : (ofOrdered (inPathOrder modules) packages).size = (inPathOrder modules).length :=
    length_map _
  have hmem : ∀ module ∈ inPathOrder modules,
      module.path ∈ (ofOrdered (inPathOrder modules) packages).nodes.map (·.path) := by
    intro module hmodule
    rw [hnodes]
    exact mem_map_of_mem hmodule
  constructor
  case nodes => exact fun module hmodule => exists_indexOf? (hmem module hmodule)
  case sources =>
    intro edge hedge
    obtain ⟨source, module, spec, hsource, -, rfl⟩ := exists_edgeOf hedge
    have hlt := (List.getElem?_eq_some_iff.1 hsource).1
    rw [← hsize] at hlt
    exact path?_isSome hlt
  case targets =>
    intro edge hedge
    obtain ⟨source, module, spec, -, -, rfl⟩ := exists_edgeOf hedge
    refine ⟨(isConsistent_edgeOf _ _ _ _ _).internal, fun target htarget => ?_⟩
    have hlt := target_edgeOf_lt htarget
    rw [length_map, ← hsize] at hlt
    exact path?_isSome hlt
  case walks =>
    intro walk hwalk
    have hclosed := isClosed_of_mem_walks hin hwalk
    exact ⟨hclosed.two_le_length, fun node hnode =>
      path?_isSome (lt_size_of_mem_closed hin hclosed hnode)⟩
  case depths =>
    intro module hmodule
    have hkeys := keys_depths hin (pathsDistinct_ofOrdered hpaths) hanalyze
    have hkey : module.path ∈ analysis.depths.map (·.1) := by
      rw [hkeys]
      exact hmem module hmodule
    obtain ⟨entry, hentry, heq⟩ := mem_map.1 hkey
    exact lookup_isSome_iff.2 ⟨entry, hentry, beq_iff_eq.2 heq.symm⟩

end DependencyGraph

namespace Harvest

variable {plan : Plan} {harvest : Harvest}

/-- Every stage of charting succeeds, and nothing is missing where stages look things up. -/
structure ChartsFully (plan : Plan) (harvest : Harvest) (atlas : Atlas String Span) : Prop where
  graph : harvest.graph = .ok atlas.graph
  analysis : analysisOf atlas.graph = .ok atlas.analysis
  entryPoints : atlas.entryPoints = EntryPoint.rank .binary64 plan.weights atlas.graph
    harvest.modules harvest.manifest.entryHints
  concepts : harvest.conceptsOf plan.rules atlas.graph atlas.analysis = .ok atlas.concepts
  complete : (Surroundings.ofModules harvest.modules atlas.graph atlas.analysis
    harvest.manifest).IsComplete
  sound : ∀ concept ∈ atlas.concepts, concept.IsSoundFor plan.rules

/-- **Outlines with distinct paths can be charted** with rules that report soundly. -/
lemma exists_chartsFully (harvest : Harvest) (hrules : ∀ rule ∈ plan.rules, rule.ReportsSound)
    (hpaths : (harvest.modules.map (·.path)).Nodup) :
    ∃ atlas, harvest.chart plan = .ok atlas ∧ harvest.ChartsFully plan atlas := by
  obtain ⟨atlas, hchart⟩ :=
    exists_chart plan harvest (fun rule hrule => (hrules rule hrule).finishes) hpaths
  refine ⟨atlas, hchart, ?_⟩
  obtain ⟨graph, hgraph, h⟩ := bind_eq_ok.1 hchart
  obtain ⟨analysis, hanalysis, h⟩ := bind_eq_ok.1 h
  obtain ⟨concepts, hconcepts, h⟩ := bind_eq_ok.1 h
  cases h
  have hanalyze := analysisOf_eq_ok hanalysis
  refine ⟨hgraph, hanalysis, rfl, hconcepts, ?_, ?_⟩
  · obtain ⟨-, rfl⟩ := graph_eq_ok hgraph
    exact DependencyGraph.isComplete_ofOrdered hpaths harvest.manifest hanalyze
  · exact Concept.isSoundFor_of_mem_extract hrules (conceptsOf_eq_ok hconcepts)

end Harvest

namespace Plan

variable {plan : Plan} {options : RunOptions} {offered : List Offered} {manifests : Value}
  {files : List SourceFile} {manifest : ManifestInfo String}

/-- Some files may be too late: the others are charted. -/
lemma exists_runWithin_chartsFully (hrules : ∀ rule ∈ plan.rules, rule.ReportsSound)
    (late : SourceFile → Bool) (parser : Parser) (haccept : SourceFile.accept offered = .ok files)
    (hmanifest : ManifestInfo.ofValue manifests = .ok manifest) :
    ∃ harvest atlas, Harvest.ofFilesWithin late parser offered manifests = .ok harvest ∧
      plan.runWithin late parser offered manifests = .ok atlas ∧
      harvest.ChartsFully plan atlas := by
  have hpaths := (Harvest.ascending_outlines late parser
    (Harvest.ascending_inPathOrder haccept)).nodup_keys
  obtain ⟨atlas, hchart, hfully⟩ := Harvest.exists_chartsFully (.ofSettled
    (Outcome.within late parser) (SourceFile.inPathOrder files) manifest) hrules hpaths
  exact ⟨_, atlas, Harvest.ofFilesWithin_eq_ok_iff.2 ⟨files, manifest, haccept, hmanifest, rfl⟩,
    runWithin_eq_ok_iff.2 ⟨files, manifest, haccept, hmanifest, hchart⟩, hfully⟩

/-- **Runs with the library's own rules return.**  Once files and manifests are accepted, nothing
fails, whatever the parser makes of the files and whichever of them are too late: not even a single
lookup goes without an answer. -/
theorem runs_with_own_rules_return (hplan : ofOptions [] options = .ok plan) (parser : Parser)
    (haccept : SourceFile.accept offered = .ok files)
    (hmanifest : ManifestInfo.ofValue manifests = .ok manifest) :
    (∀ late : SourceFile → Bool, ∃ harvest atlas,
      Harvest.ofFilesWithin late parser offered manifests = .ok harvest ∧
      plan.runWithin late parser offered manifests = .ok atlas ∧
      harvest.ChartsFully plan atlas) ∧
    ∃ harvest atlas, Harvest.ofFiles plan.workers parser offered manifests = .ok harvest ∧
      plan.run parser offered manifests = .ok atlas ∧ harvest.ChartsFully plan atlas := by
  have hrules : ∀ rule ∈ plan.rules, rule.ReportsSound :=
    forall_mem_rules Rule.reportsSound_of_mem_builtIn (by simp) hplan
  refine ⟨fun late => exists_runWithin_chartsFully hrules late parser haccept hmanifest, ?_⟩
  obtain ⟨late, hlate⟩ := Harvest.exists_ofFiles_eq plan.workers parser offered manifests
  rw [hlate, run_eq_runWithin hlate]
  exact exists_runWithin_chartsFully hrules late parser haccept hmanifest

/-- Eight workers, all rules, and the standard weights. -/
def plainOptions : RunOptions := ⟨none, 8, [], .dict []⟩

/-- Two files that import each other, and one that is not UTF-8. -/
def crossedFiles : List Offered :=
  [.file (.str "a.py") (.bytes (Text.encode "import b\n")) (.int 9),
    .file (.str "b.py") (.bytes (Text.encode "import a\n")) (.int 9),
    .file (.str "c.py") (.bytes [255]) (.int 1)]

/-- A parser that sees one import in every file. -/
def importParser : Parser := fun _ => .tree <|
  .construct "module" none 0 9
    [.construct "import_statement" none 0 8 [.construct "dotted_name" (some "name") 7 8 []]]

theorem crossedFiles_run_returns : ∃ plan files harvest atlas,
    ofOptions [] plainOptions = .ok plan ∧
    SourceFile.accept crossedFiles = .ok files ∧
    ManifestInfo.ofValue (.dict []) = .ok .empty ∧
    Harvest.ofFiles plan.workers importParser crossedFiles (.dict []) = .ok harvest ∧
    plan.run importParser crossedFiles (.dict []) = .ok atlas ∧
    harvest.ChartsFully plan atlas := by
  obtain ⟨plan, hplan⟩ : ∃ plan, ofOptions [] plainOptions = .ok plan := by
    simp [ofOptions, plainOptions, weightsOf, Weights.ofValue, Weights.ofEntries, rulesOf,
      Rule.discover_nil, bind, Except.bind, pure, Except.pure]
  have haccept : SourceFile.accept crossedFiles = .ok [⟨"a.py", Text.encode "import b\n"⟩,
      ⟨"b.py", Text.encode "import a\n"⟩, ⟨"c.py", [255]⟩] := by
    decide +kernel
  have hmanifest : ManifestInfo.ofValue (.dict []) = .ok .empty := by decide +kernel
  obtain ⟨harvest, atlas, hharvest, hrun, hfully⟩ :=
    (runs_with_own_rules_return hplan importParser haccept hmanifest).2
  exact ⟨plan, _, harvest, atlas, hplan, haccept, hmanifest, hharvest, hrun, hfully⟩

end Plan

end RepoAtlas
