import RepoAtlas.Proofs.Concept.Rules
import RepoAtlas.Proofs.Graph.Arena
import RepoAtlas.Proofs.Manifest.Gathered
import RepoAtlas.Proofs.Run.Settlement
import RepoAtlas.Run.Charting

/-!
# What runs produce is well formed

An atlas keeps its graph in arena form, and what it keeps as entries has distinct keys.  Nothing in
the type of an atlas says so; this file shows that every run says so, also one that failed after the
harvest and answers with what it had.

Each part of an atlas has one origin, and each origin one lemma: graphs are built
(`isArena_build`), depths are set one path after another (`keysDistinct_depths`), packages are added
to what is known (`packagesDistinct_ofValue`), and evidence is what a rule emits.
-/

namespace RepoAtlas

open List

/-! ## Graphs -/

namespace DependencyGraph

variable {modules : List SourceModule} {packages : Packages} {graph : DependencyGraph String}

lemma isArena_ofOrdered (hd : (modules.map (·.path)).Nodup) :
    (ofOrdered modules packages).IsArena := by
  have hsize : (ofOrdered modules packages).size = modules.length := length_map _
  refine ⟨?_, fun edge hedge => ?_⟩
  · rw [PathsDistinct, ofOrdered, map_map]
    exact hd
  · obtain ⟨imports, himports, hedge⟩ := mem_flatten.1 hedge
    obtain ⟨source, hsource, rfl⟩ := mem_mapIdx.1 himports
    obtain ⟨spec, -, rfl⟩ := mem_map.1 hedge
    refine ⟨hsize ▸ hsource, fun target htarget => ?_⟩
    obtain ⟨path, -, hfound⟩ := Option.bind_eq_some_iff.1 (Option.mem_def.1 htarget)
    have hlt := (findIdx?_eq_some_iff_getElem.1 hfound).1
    rw [hsize]
    simpa using hlt

/-- **A graph that is built is in arena form.** -/
lemma isArena_build (h : build modules packages = .ok graph) : graph.IsArena := by
  unfold build at h
  split_ifs at h with hd
  cases h
  refine isArena_ofOrdered ?_
  have hperm : inPathOrder modules ~ modules := mergeSort_perm modules _
  exact (hperm.map (·.path)).nodup_iff.2 hd

lemma keysDistinct_depths {analysis : GraphAnalysis String} (h : graph.analyze = .ok analysis) :
    Entries.KeysDistinct analysis.depths := by
  simp only [analyze] at h
  split at h
  · cases h
  · rename_i depths hdepths
    cases h
    obtain ⟨settled, -, rfl⟩ := Option.map_eq_some_iff.1 hdepths
    exact Entries.keysDistinct_ofPairs _

end DependencyGraph

/-! ## Manifests -/

namespace ManifestInfo

variable {info : ManifestInfo String}

/-- Every package is declared once for each language family. -/
structure PackagesDistinct {τ : Type} (info : ManifestInfo τ) : Prop where
  python : Entries.KeysDistinct info.pythonPackages
  node : Entries.KeysDistinct info.nodePackages

lemma packagesDistinct_ofValue {manifests : Value} (h : ofValue manifests = .ok info) :
    info.PackagesDistinct := by
  obtain ⟨entries, -, rfl⟩ := exists_eq_of_ofValue h
  exact ⟨keysDistinct_packagesFor _ .python, keysDistinct_packagesFor _ .javaScript⟩

end ManifestInfo

/-! ## Atlases -/

/-- An atlas whose graph is in arena form and whose entries have distinct keys. -/
structure Atlas.IsWellFormed {σ : Type} (atlas : Atlas String σ) : Prop where
  arena : atlas.graph.IsArena
  depths : Entries.KeysDistinct atlas.analysis.depths
  evidence : ∀ concept ∈ atlas.concepts, Entries.KeysDistinct concept.evidence
  packages : atlas.manifest.PackagesDistinct

namespace Harvest

variable {harvest : Harvest}

lemma packagesDistinct_ofFiles {workers : ℕ} {parser : Parser} {offered : List Offered}
    {manifests : Value} (h : ofFiles workers parser offered manifests = .ok harvest) :
    harvest.manifest.PackagesDistinct := by
  obtain ⟨-, -, hmanifest, -⟩ := ofOutcomesOf_eq_ok h
  exact ManifestInfo.packagesDistinct_ofValue hmanifest

/-- What is known of a harvest alone is well formed: it has no graph and no concepts. -/
lemma isWellFormed_atlas (h : harvest.manifest.PackagesDistinct) :
    harvest.atlas.IsWellFormed where
  arena := DependencyGraph.isArena_empty
  depths := nodup_nil
  evidence _ hconcept := absurd hconcept not_mem_nil
  packages := h

lemma isWellFormed_chart {plan : Plan} {atlas : Atlas String Span}
    (hrules : ∀ rule ∈ plan.rules, rule.EvidenceDistinct)
    (hpackages : harvest.manifest.PackagesDistinct) (h : harvest.chart plan = .ok atlas) :
    atlas.IsWellFormed := by
  obtain ⟨graph, hgraph, h⟩ := bind_eq_ok.1 h
  obtain ⟨analysis, hanalysis, h⟩ := bind_eq_ok.1 h
  obtain ⟨concepts, hconcepts, h⟩ := bind_eq_ok.1 h
  cases h
  refine ⟨?_, ?_, ?_, hpackages⟩
  · unfold Harvest.graph at hgraph
    split at hgraph
    · cases hgraph
      exact DependencyGraph.isArena_build ‹_›
    · cases hgraph
  · unfold analysisOf at hanalysis
    split at hanalysis
    · cases hanalysis
      exact DependencyGraph.keysDistinct_depths ‹_›
    · cases hanalysis
  · unfold conceptsOf at hconcepts
    split at hconcepts
    · cases hconcepts
      exact Concept.keysDistinct_extract hrules ‹_›
    · cases hconcepts

end Harvest

namespace Plan

variable {plan : Plan} {parser : Parser} {files : List Offered} {manifests : Value}
  {atlas : Atlas String Span}

/-- **Whatever atlas a run answers with is well formed**, be it the result or what had been found
before charting failed. -/
lemma isWellFormed_run (hrules : ∀ rule ∈ plan.rules, rule.EvidenceDistinct)
    (h : plan.run parser files manifests = .ok atlas ∨
      ∃ cause, plan.run parser files manifests = .error (.halfway cause atlas)) :
    atlas.IsWellFormed := by
  unfold run at h
  cases hharvest : Harvest.ofFiles plan.workers parser files manifests with
  | error e => simp [hharvest, complete] at h
  | ok harvest =>
      have hpackages := Harvest.packagesDistinct_ofFiles hharvest
      simp only [hharvest, complete] at h
      unfold Atlas.ofHarvest at h
      cases hchart : harvest.chart plan with
      | ok charted =>
          have heq : charted = atlas := by simpa [hchart] using h
          exact heq ▸ Harvest.isWellFormed_chart hrules hpackages hchart
      | error cause =>
          have heq : harvest.atlas = atlas := by
            rw [hchart] at h
            cases cause with
            | extraction e => cases hcontract : e.brokenContract? <;> simp_all
            | _ => simp_all
          exact heq ▸ Harvest.isWellFormed_atlas hpackages

lemma forall_mem_rules {p : Rule → Prop} {plugins : List Plugin} {options : RunOptions}
    (hown : ∀ rule ∈ Rule.builtIn, p rule)
    (hplugins : ∀ plugin ∈ plugins, ∀ rule, plugin.offer = .rule rule → p rule)
    (h : ofOptions plugins options = .ok plan) : ∀ rule ∈ plan.rules, p rule := by
  unfold ofOptions at h
  split_ifs at h
  obtain ⟨weights, -, h⟩ := bind_eq_ok.1 h
  obtain ⟨rules, hrules, h⟩ := bind_eq_ok.1 h
  cases h
  unfold rulesOf at hrules
  split at hrules
  · cases hrules
    exact Rule.forall_mem_discover hown hplugins ‹_›
  · cases hrules

end Plan

end RepoAtlas
