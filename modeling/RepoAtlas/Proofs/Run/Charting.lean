import RepoAtlas.Proofs.Concept.Rules
import RepoAtlas.Proofs.Graph.Construction
import RepoAtlas.Proofs.Graph.Depths
import RepoAtlas.Proofs.Run.Settlement
import RepoAtlas.Run.Charting

/-!
# What charting does to a harvest

Charting reads the outlines and the manifests of a harvest, and nothing else: `chart_congr` says
that the records of files and the warnings are passed on as they are.  It succeeds whenever no path
occurs twice and the rules finish (`exists_chart`), and what it then adds has one entry for each
outline (`charted_of_chart`).

A run is a harvest that is charted.  `Plan.runWithin` is a run in which some files are too late;
which ones is left open, and every run is one of these, whatever clock it goes by
(`exists_runWithin_of_runBy`).
-/

namespace RepoAtlas

open List

namespace DependencyGraph

variable {graph : DependencyGraph String}

/-- Every module is analysed once. -/
lemma keys_depths {analysis : GraphAnalysis String} (hin : graph.EdgesInside)
    (hd : graph.PathsDistinct) (h : graph.analyze = .ok analysis) :
    analysis.depths.map (·.1) = graph.nodes.map (·.path) := by
  obtain ⟨analysis', settled, hanalyze, -, hdepths, -⟩ := exists_analysis hin
  rw [h] at hanalyze
  cases hanalyze
  rw [hdepths, ofPairs_mapIdx hd, keys_mapIdx]

end DependencyGraph

/-- Every module is a candidate. -/
lemma EntryPoint.paths_rank {α : Type} (scale : Scale α) (weights : Weights α)
    (graph : DependencyGraph String) (modules : List SourceModule)
    (hints : List (EntryHint String)) :
    (rank scale weights graph modules hints).map (·.path) ~ graph.nodes.map (·.path) := by
  refine ((mergeSort_perm _ (precedes scale)).map (·.path)).trans (Perm.of_eq ?_)
  refine ext_getElem? fun i => ?_
  simp only [candidates, getElem?_map, getElem?_mapIdx, Option.map_map]
  rfl

namespace Harvest

variable {plan : Plan} {harvest other : Harvest} {atlas : Atlas String Span}

/-- The atlas says what was harvested, and what it says of modules is said once of each. -/
structure Charted (harvest : Harvest) (atlas : Atlas String Span) : Prop where
  files : atlas.files = harvest.files
  modules : atlas.modules = harvest.modules
  warnings : atlas.warnings = harvest.warnings
  nodes : atlas.graph.nodes.map (·.path) =
    (DependencyGraph.inPathOrder harvest.modules).map (·.path)
  depths : atlas.analysis.depths.map (·.1) = atlas.graph.nodes.map (·.path)
  entryPoints : atlas.entryPoints.map (·.path) ~ atlas.graph.nodes.map (·.path)

lemma graph_eq_ok {graph : DependencyGraph String} (h : harvest.graph = .ok graph) :
    (harvest.modules.map (·.path)).Nodup ∧ graph =
      .ofOrdered (DependencyGraph.inPathOrder harvest.modules) (.ofManifest harvest.manifest) := by
  unfold Harvest.graph at h
  split at h
  · cases h
    exact DependencyGraph.build_eq_ok_iff.1 ‹_›
  · cases h

lemma analysisOf_eq_ok {graph : DependencyGraph String} {analysis : GraphAnalysis String}
    (h : analysisOf graph = .ok analysis) : graph.analyze = .ok analysis := by
  unfold analysisOf at h
  split at h
  · cases h
    assumption
  · cases h

lemma conceptsOf_eq_ok {rules : List Rule} {graph : DependencyGraph String}
    {analysis : GraphAnalysis String} {concepts : List (Concept String)}
    (h : harvest.conceptsOf rules graph analysis = .ok concepts) :
    Concept.extract rules (.ofModules harvest.modules graph analysis harvest.manifest) =
      .ok concepts := by
  unfold conceptsOf at h
  split at h
  · cases h
    assumption
  · cases h

/-- **What charting adds has one entry for each outline.** -/
lemma charted_of_chart (h : harvest.chart plan = .ok atlas) : harvest.Charted atlas := by
  obtain ⟨graph, hgraph, h⟩ := bind_eq_ok.1 h
  obtain ⟨analysis, hanalysis, h⟩ := bind_eq_ok.1 h
  obtain ⟨concepts, -, h⟩ := bind_eq_ok.1 h
  cases h
  obtain ⟨hdistinct, rfl⟩ := graph_eq_ok hgraph
  refine ⟨rfl, rfl, rfl, DependencyGraph.paths_ofOrdered _ _, ?_, EntryPoint.paths_rank _ _ _ _ _⟩
  exact DependencyGraph.keys_depths (DependencyGraph.edgesInside_ofOrdered _ _)
    (DependencyGraph.pathsDistinct_ofOrdered hdistinct) (analysisOf_eq_ok hanalysis)

/-- **Charting reads outlines and manifests only.** -/
lemma chart_congr (hmodules : other.modules = harvest.modules)
    (hmanifest : other.manifest = harvest.manifest) (h : harvest.chart plan = .ok atlas) :
    other.chart plan = .ok { atlas with files := other.files, warnings := other.warnings } := by
  obtain ⟨graph, hgraph, h⟩ := bind_eq_ok.1 h
  obtain ⟨analysis, hanalysis, h⟩ := bind_eq_ok.1 h
  obtain ⟨concepts, hconcepts, h⟩ := bind_eq_ok.1 h
  cases h
  have hgraph' : other.graph = .ok graph := by
    rw [Harvest.graph, hmodules, hmanifest]
    exact hgraph
  have hconcepts' : other.conceptsOf plan.rules graph analysis = .ok concepts := by
    rw [conceptsOf, hmodules, hmanifest]
    exact hconcepts
  refine bind_eq_ok.2 ⟨graph, hgraph', bind_eq_ok.2 ⟨analysis, hanalysis, ?_⟩⟩
  refine bind_eq_ok.2 ⟨concepts, hconcepts', ?_⟩
  simp only [Harvest.atlas, hmodules, hmanifest]
  rfl

/-- Outlines with distinct paths have a graph, and it can be analysed. -/
lemma exists_graph_analysis (harvest : Harvest) (hpaths : (harvest.modules.map (·.path)).Nodup) :
    ∃ graph analysis, harvest.graph = .ok graph ∧ analysisOf graph = .ok analysis := by
  obtain ⟨graph, hgraph, hin⟩ : ∃ graph, harvest.graph = .ok graph ∧ graph.EdgesInside := by
    have hbuild := DependencyGraph.build_eq_ok (.ofManifest harvest.manifest) hpaths
    exact ⟨_, by rw [Harvest.graph, hbuild], DependencyGraph.edgesInside_ofOrdered _ _⟩
  obtain ⟨analysis, settled, hanalyze, -⟩ := DependencyGraph.exists_analysis hin
  exact ⟨graph, analysis, hgraph, by rw [analysisOf, hanalyze]⟩

/-- The atlas of a harvest, with everything that charting adds. -/
def chartedAtlas (harvest : Harvest) (plan : Plan) (graph : DependencyGraph String)
    (analysis : GraphAnalysis String) (concepts : List (Concept String)) : Atlas String Span :=
  { harvest.atlas with
    graph
    analysis
    entryPoints :=
      EntryPoint.rank .binary64 plan.weights graph harvest.modules harvest.manifest.entryHints
    concepts }

lemma chart_of_extract {graph : DependencyGraph String} {analysis : GraphAnalysis String}
    (hgraph : harvest.graph = .ok graph)
    (hanalysis : analysisOf graph = .ok analysis) {concepts : List (Concept String)}
    (h : Concept.extract plan.rules
      (.ofModules harvest.modules graph analysis harvest.manifest) = .ok concepts) :
    harvest.chart plan = .ok (harvest.chartedAtlas plan graph analysis concepts) := by
  have hconcepts : harvest.conceptsOf plan.rules graph analysis = .ok concepts := by
    rw [conceptsOf, h]
  simp only [chart, hgraph, hanalysis, hconcepts, bind, Except.bind]
  rfl

/-- **Charting succeeds** when no path occurs twice and all rules finish. -/
lemma exists_chart (plan : Plan) (harvest : Harvest)
    (hrules : ∀ rule ∈ plan.rules, rule.Finishes)
    (hpaths : (harvest.modules.map (·.path)).Nodup) :
    ∃ atlas, harvest.chart plan = .ok atlas := by
  obtain ⟨graph, analysis, hgraph, hanalysis⟩ := exists_graph_analysis harvest hpaths
  obtain ⟨concepts, hconcepts⟩ := Concept.exists_extract fun rule hrule =>
    hrules rule hrule (.ofModules harvest.modules graph analysis harvest.manifest)
  exact ⟨_, chart_of_extract hgraph hanalysis hconcepts⟩

end Harvest

/-- **What comes of charting**: an atlas, or an error that keeps what was harvested, or a complaint
of a rule. -/
lemma Atlas.ofHarvest_cases (plan : Plan) (harvest : Harvest) :
    (∃ atlas, harvest.chart plan = .ok atlas ∧ Atlas.ofHarvest plan harvest = .ok atlas) ∨
      ∃ cause, harvest.chart plan = .error cause ∧
        (Atlas.ofHarvest plan harvest = .error (.halfway cause harvest.atlas) ∨
          ∃ text, Atlas.ofHarvest plan harvest = .error (.brokenContract text)) := by
  unfold Atlas.ofHarvest
  cases harvest.chart plan with
  | ok atlas => exact Or.inl ⟨atlas, rfl, rfl⟩
  | error cause =>
      refine Or.inr ⟨cause, rfl, ?_⟩
      cases cause with
      | extraction e => cases hcontract : e.brokenContract? <;> simp [hcontract]
      | duplicate e => exact Or.inl rfl
      | cyclic e => exact Or.inl rfl

lemma Atlas.ofHarvest_eq_ok_iff {plan : Plan} {harvest : Harvest} {atlas : Atlas String Span} :
    Atlas.ofHarvest plan harvest = .ok atlas ↔ harvest.chart plan = .ok atlas := by
  obtain ⟨_, hchart, h⟩ | ⟨_, hchart, h | ⟨_, h⟩⟩ := Atlas.ofHarvest_cases plan harvest
  all_goals simp [hchart, h]

lemma Atlas.ofHarvest_ne_noHarvest {plan : Plan} {harvest : Harvest} (e : HarvestError) :
    Atlas.ofHarvest plan harvest ≠ .error (.noHarvest e) := by
  obtain ⟨_, -, h⟩ | ⟨_, -, h | ⟨_, h⟩⟩ := Atlas.ofHarvest_cases plan harvest
  all_goals simp [h]

/-! ## Runs in which files are too late -/

namespace Plan

variable {plan : Plan} {late : SourceFile → Bool} {parser : Parser} {offered : List Offered}
  {manifests : Value} {atlas : Atlas String Span}

lemma run_eq_runWithin (h : Harvest.ofFiles plan.workers parser offered manifests =
    Harvest.ofFilesWithin late parser offered manifests) :
    plan.run parser offered manifests = plan.runWithin late parser offered manifests :=
  congrArg plan.complete h

lemma exists_run_eq_runWithin (plan : Plan) (parser : Parser) (offered : List Offered)
    (manifests : Value) : ∃ late : SourceFile → Bool,
      plan.run parser offered manifests = plan.runWithin late parser offered manifests := by
  obtain ⟨late, hlate⟩ := Harvest.exists_ofFiles_eq plan.workers parser offered manifests
  exact ⟨late, run_eq_runWithin hlate⟩

/-- **Whatever clock a run goes by**, all there is to know of it is which files were too late. -/
lemma exists_runWithin_of_runBy {clock : Clock} {result : Except RunError (Atlas String Span)}
    (h : plan.runBy clock parser offered manifests = some result) : ∃ late : SourceFile → Bool,
      result = plan.runWithin late parser offered manifests := by
  obtain ⟨late, hlate⟩ := Harvest.exists_late clock plan.workers parser offered manifests
  refine ⟨late, ?_⟩
  rw [runWithin, ← hlate]
  unfold runBy at h
  split at h
  · rename_i e he
    cases h
    rw [he, complete]
  · rename_i harvest hharvest
    split_ifs at h
    cases h
    rw [hharvest, complete]

/-- **A run that returns has charted what came of each file.** -/
lemma runWithin_eq_ok_iff : plan.runWithin late parser offered manifests = .ok atlas ↔
    ∃ accepted manifest, SourceFile.accept offered = .ok accepted ∧
      ManifestInfo.ofValue manifests = .ok manifest ∧
      (Harvest.ofSettled (Outcome.within late parser) (SourceFile.inPathOrder accepted)
        manifest).chart plan = .ok atlas := by
  constructor
  · intro h
    unfold runWithin at h
    cases hharvest : Harvest.ofFilesWithin late parser offered manifests with
    | error e =>
        rw [hharvest] at h
        cases h
    | ok harvest =>
        rw [hharvest] at h
        obtain ⟨accepted, manifest, haccept, hmanifest, rfl⟩ :=
          Harvest.ofFilesWithin_eq_ok_iff.1 hharvest
        exact ⟨accepted, manifest, haccept, hmanifest, Atlas.ofHarvest_eq_ok_iff.1 h⟩
  · rintro ⟨accepted, manifest, haccept, hmanifest, h⟩
    rw [runWithin, Harvest.ofFilesWithin_eq_ok_iff.2 ⟨accepted, manifest, haccept, hmanifest, rfl⟩]
    exact Atlas.ofHarvest_eq_ok_iff.2 h

lemma mem_files_runWithin {files : List SourceFile}
    (haccept : SourceFile.accept offered = .ok files)
    (h : plan.runWithin late parser offered manifests = .ok atlas) {record : FileRecord String} :
    record ∈ atlas.files ↔
      ∃ file ∈ files, Harvest.settled (Outcome.within late parser) file = record := by
  obtain ⟨accepted, manifest, haccept', -, hchart⟩ := runWithin_eq_ok_iff.1 h
  cases haccept.symm.trans haccept'
  rw [(Harvest.charted_of_chart hchart).files]
  simp only [Harvest.ofSettled, mem_map, Harvest.mem_inPathOrder]

/-- **A run returns** when files and manifests are accepted and all rules finish. -/
lemma exists_runWithin {accepted : List SourceFile} {manifest : ManifestInfo String}
    (hrules : ∀ rule ∈ plan.rules, rule.Finishes)
    (haccept : SourceFile.accept offered = .ok accepted)
    (hmanifest : ManifestInfo.ofValue manifests = .ok manifest) :
    ∃ atlas, plan.runWithin late parser offered manifests = .ok atlas := by
  have hpaths := (Harvest.ascending_outlines late parser
    (Harvest.ascending_inPathOrder haccept)).nodup_keys
  obtain ⟨atlas, hchart⟩ := Harvest.exists_chart plan (.ofSettled (Outcome.within late parser)
    (SourceFile.inPathOrder accepted) manifest) hrules hpaths
  exact ⟨atlas, runWithin_eq_ok_iff.2 ⟨accepted, manifest, haccept, hmanifest, hchart⟩⟩

/-! ## Runs without a time budget -/

/-- **If the workers get done with all files, a run without a time budget returns**, and no file is
too late for it. -/
lemma runBy_eq_runWithin {clock : Clock} (hclock : clock.budget = none)
    (h : ∀ accepted, SourceFile.accept offered = .ok accepted →
      GetsDone plan.workers parser (Harvest.taken accepted)) (manifests : Value) :
    plan.runBy clock parser offered manifests =
      some (plan.runWithin (fun _ => false) parser offered manifests) := by
  rw [runBy, runWithin, Harvest.ofFilesBy_eq_ofFilesWithin (Or.inr hclock) h]
  cases hharvest : Harvest.ofFilesWithin (fun _ => false) parser offered manifests with
  | error e => rfl
  | ok harvest =>
      obtain ⟨accepted, manifest, haccept, -, rfl⟩ := Harvest.ofFilesWithin_eq_ok_iff.1 hharvest
      have hunfinished : (Harvest.ofSettled (Outcome.within (fun _ => false) parser)
          (SourceFile.inPathOrder accepted) manifest).unfinished = 0 := by
        refine countP_eq_zero.2 fun file hfile hlate => ?_
        exact (h accepted haccept).ends file hfile (eq_of_beq hlate)
      simp [hunfinished, complete]

/-- A run without a time budget that returns has waited for all files. -/
lemma getsDone_of_runBy {clock : Clock} (hclock : clock.budget = none) {accepted : List SourceFile}
    (haccept : SourceFile.accept offered = .ok accepted)
    (h : plan.runBy clock parser offered manifests = some (.ok atlas)) :
    GetsDone plan.workers parser (Harvest.taken accepted) := by
  unfold runBy at h
  split at h
  · cases h
  · rename_i harvest hharvest
    refine Harvest.getsDone_of_unfinished_eq_zero haccept hharvest ?_
    by_contra hunfinished
    rw [if_pos (by simp [hclock, hunfinished])] at h
    cases h

end Plan

end RepoAtlas
