import RepoAtlas.Proofs.Concept.Discovery
import RepoAtlas.Proofs.Document.Graph
import RepoAtlas.Proofs.Run.WellFormed

/-!
# Atlases survive their documents

Reading what was written of an atlas gives the atlas, provided that it has the form in which
documents hold atlases (`Atlas.IsHeld`): every part of it is read back by the lemma for its records,
and the check for facts finds nothing to complain about.  Well-formed atlases are of this form once
their texts are values.  Since whatever a run answers with is well formed, no run has to be asked
for more than its document.
-/

namespace RepoAtlas

open List

/-- The form in which documents hold an atlas. -/
structure Atlas.IsHeld (atlas : Atlas Value (Option Span)) : Prop where
  files : ∀ file ∈ atlas.files, file.IsHeld
  modules : ∀ m ∈ atlas.modules, m.IsHeld
  graph : atlas.graph.IsHeld
  analysis : atlas.analysis.IsHeld
  evidence : ∀ concept ∈ atlas.concepts, Entries.KeysDistinct concept.evidence
  packages : atlas.manifest.PackagesDistinct

lemma Atlas.isHeld_map {σ : Type} (span : σ → Option Span) {atlas : Atlas String σ}
    (h : atlas.IsWellFormed) : (atlas.map .str span).IsHeld where
  files := forall_mem_map.2 fun file _ => file.isHeld_map
  modules := forall_mem_map.2 fun m _ => m.isHeld_map span
  graph := DependencyGraph.isHeld_map h.arena
  analysis := GraphAnalysis.isHeld_map h.depths
  evidence := forall_mem_map.2 h.evidence
  packages := ⟨h.packages.python.map Function.injective_id,
    h.packages.node.map Function.injective_id⟩

end RepoAtlas

namespace RepoAtlas.Document

open List

/-- The manifest entry of a document is an object with entries, so it is not taken for a missing
one. -/
lemma manifestOf_ofAtlas {atlas : Atlas Value (Option Span)}
    (h : atlas.manifest.PackagesDistinct) : manifestOf (ofAtlas atlas) = .ok atlas.manifest := by
  have hentry : entryOr (.dict []) (ofAtlas atlas) "manifest" =
      .ok (ofManifest atlas.manifest) := entryOr_written rfl
  have htruthy : (ofManifest atlas.manifest).isTruthy = true := rfl
  simp only [manifestOf, hentry, bind, Except.bind, htruthy, if_true]
  exact toManifest_ofManifest h.python h.node

/-- **An atlas is read back** if it is held. -/
lemma toAtlas_ofAtlas_of_isHeld {atlas : Atlas Value (Option Span)} (h : atlas.IsHeld) :
    toAtlas (ofAtlas atlas) = .ok atlas := by
  have hfacts : items (ofAtlas atlas) "concepts" = .ok (atlas.concepts.map ofConcept) := rfl
  have hgraph : entryOr (.dict []) (ofAtlas atlas) "graph" =
      .ok (ofGraph atlas.graph atlas.analysis) := entryOr_written rfl
  have hmanifest := manifestOf_ofAtlas h.packages
  have hfiles : each toFile (ofAtlas atlas) "files" = .ok atlas.files :=
    each_written rfl fun file hfile => toFile_ofFile (h.files file hfile)
  have hmodules : each toModule (ofAtlas atlas) "modules" = .ok atlas.modules :=
    each_written rfl fun m hm => toModule_ofModule (h.modules m hm)
  have hentries : each toEntryPoint (ofAtlas atlas) "entry_points" = .ok atlas.entryPoints :=
    each_written rfl fun entry _ => toEntryPoint_ofEntryPoint entry
  have hconcepts : each toConcept (ofAtlas atlas) "concepts" = .ok atlas.concepts :=
    each_written rfl fun concept hconcept => toConcept_ofConcept (h.evidence concept hconcept)
  have hwarnings : items (ofAtlas atlas) "warnings" = .ok atlas.warnings := rfl
  -- what is left is the order in which the reader puts the parts together
  obtain ⟨entries, hdata⟩ : ∃ entries, ofAtlas atlas = .dict entries := ⟨_, rfl⟩
  rw [hdata] at hfacts hgraph hmanifest hfiles hmodules hentries hconcepts hwarnings ⊢
  simp only [toAtlas, bind, Except.bind, hfacts, requireFacts_written, hgraph,
    toGraph_ofGraph h.graph h.analysis, hmanifest, hfiles, hmodules, hentries, hconcepts,
    hwarnings]
  rfl

variable {σ : Type}

/-- Well-formed atlases are read back. -/
lemma toAtlas_ofAtlas (span : σ → Option Span) {atlas : Atlas String σ} (h : atlas.IsWellFormed) :
    toAtlas (ofAtlas (atlas.map .str span)) = .ok (atlas.map .str span) :=
  toAtlas_ofAtlas_of_isHeld (Atlas.isHeld_map span h)

/-- **Every atlas survives its document**: every well-formed one, whichever of its optional parts
and spans are absent, and so whatever atlas a run answers with, in full or halfway. -/
theorem atlas_survives_its_document :
    (∀ {σ : Type} (span : σ → Option Span) (atlas : Atlas String σ), atlas.IsWellFormed →
      toAtlas (ofAtlas (atlas.map .str span)) = .ok (atlas.map .str span)) ∧
    ∀ (plugins : List Plugin) (options : RunOptions) (plan : Plan) (parser : Parser)
      (files : List Offered) (manifests : Value) (atlas : Atlas String Span),
      (∀ plugin ∈ plugins, ∀ rule, plugin.offer = .rule rule → rule.EvidenceDistinct) →
      Plan.ofOptions plugins options = .ok plan →
      (plan.run parser files manifests = .ok atlas ∨
        ∃ cause, plan.run parser files manifests = .error (.halfway cause atlas)) →
      toAtlas (ofAtlas (heldAtlas atlas)) = .ok (heldAtlas atlas) := by
  refine ⟨fun span atlas h => toAtlas_ofAtlas span h, ?_⟩
  intro plugins options plan parser files manifests atlas hplugins hplan hrun
  have hrules := Plan.forall_mem_rules
    (Rule.forall_mem_builtIn Rule.evidenceDistinct_ofSightings) hplugins hplan
  exact toAtlas_ofAtlas some (Plan.isWellFormed_run hrules hrun)

lemma exists_run_of_nothing {plan : Plan} (hrules : ∀ rule ∈ plan.rules, rule.Finishes)
    (parser : Parser) : ∃ atlas, plan.run parser [] (.dict []) = .ok atlas := by
  have hmanifest : ManifestInfo.ofValue (.dict []) = .ok .empty := by decide +kernel
  have hharvest : Harvest.ofFiles plan.workers parser [] (.dict []) =
      .ok ⟨[], [], .empty, 0⟩ := by
    simp [Harvest.ofFiles, Harvest.ofFilesBy, Harvest.ofOutcomesOf, SourceFile.accept,
      Intake.checkFrom, hmanifest, SourceFile.inPathOrder, Harvest.ofOutcomes, Harvest.settleAll,
      DependencyGraph.inPathOrder, Clock.outcomes, Outcome.schedule, bind, Except.bind, pure,
      Except.pure]
  have hgraph : Harvest.graph ⟨[], [], .empty, 0⟩ = .ok .empty := by decide +kernel
  have hanalysis : Harvest.analysisOf .empty = .ok .empty := rfl
  obtain ⟨concepts, hconcepts⟩ := Concept.exists_extract fun rule hrule =>
    hrules rule hrule (.ofModules [] .empty .empty .empty)
  simp [Plan.run, Plan.complete, hharvest, Atlas.ofHarvest, Harvest.chart, Harvest.conceptsOf,
    hgraph, hanalysis, hconcepts, bind, Except.bind, pure, Except.pure]

/-- An atlas of two modules that import each other, with parts of every kind, present and absent. -/
def sampleAtlas : Atlas String (Option Span) where
  files :=
    [⟨"app.js", .javaScript, 120, .parsed, none, some "javascript", "src"⟩,
      ⟨"db.js", .javaScript, 80, .parsed, none, some "javascript", "src"⟩,
      ⟨"old.js", .javaScript, 9, .failed, some "timeout", some "javascript", "src"⟩,
      ⟨"README.md", .unrecognised, 40, .pending, none, none, "docs"⟩]
  modules :=
    [⟨"app.js", .javaScript, "javascript",
        [⟨"main", ["args"], some ⟨3, 9⟩, none, true, true, false, "public", [], ["Store"]⟩],
        [⟨"Store", some "Base",
          [⟨"get", ["key"], none, some "string", false, false, true, "private", ["memo"], []⟩],
          some ⟨10, 20⟩, ["Base"], [⟨"rows", 11, false, "private"⟩], [], true, false⟩],
        [⟨"./db", ["open"], some ⟨1, 1⟩, false⟩],
        [⟨"main", some ⟨3, 9⟩, true, none⟩, ⟨"open", none, false, some "./db"⟩],
        [⟨"Express", "GET", "/rows", some ⟨8, 8⟩, none⟩], false⟩,
      ⟨"db.js", .javaScript, "javascript", [], [], [], [], [], true⟩]
  graph :=
    { nodes := [⟨"app.js", .javaScript⟩, ⟨"db.js", .javaScript⟩]
      edges :=
        [⟨0, .internal, "./db", 1, some 1, none⟩,
          ⟨0, .external, "express", 2, none, some "express"⟩,
          ⟨1, .internal, "./app", 1, some 0, none⟩, ⟨1, .unresolved, "./gone", 2, none, none⟩] }
  analysis := ⟨[⟨["app.js", "db.js", "app.js"]⟩], [("app.js", 0), ("db.js", 0)]⟩
  entryPoints := [⟨"app.js", 1, ["manifest_main"], ["referenced by package.json"]⟩]
  concepts :=
    [⟨.frameworkPattern, "HTTP Routing", 1, "app.js", some ⟨8, 8⟩,
        [("routes", .bool true), ("count", .int 1)], "http_routing"⟩,
      ⟨.architecturalPattern, "Hub Module", 0, "db.js", none, [], "hub_module"⟩]
  manifest :=
    ⟨[], [("express", "^4.0.0")], ["Express"], [⟨"path", "app.js", "package.json"⟩],
      ["package.json"], [], false⟩
  warnings := ["time budget exhausted: 1 file(s) not normalized"]

theorem sampleAtlas_survives :
    sampleAtlas.IsWellFormed ∧
      toAtlas (ofAtlas (sampleAtlas.map .str id)) = .ok (sampleAtlas.map .str id) ∧
      ∃ plan atlas, Plan.ofOptions [] ⟨none, 8, [], .dict []⟩ = .ok plan ∧
        plan.run (fun _ => .givesUp) [] (.dict []) = .ok atlas ∧
        toAtlas (ofAtlas (heldAtlas atlas)) = .ok (heldAtlas atlas) := by
  have hsample : sampleAtlas.IsWellFormed :=
    ⟨⟨by decide, by decide⟩, by decide, by decide, ⟨by decide, by decide⟩⟩
  refine ⟨hsample, atlas_survives_its_document.1 id sampleAtlas hsample, ?_⟩
  obtain ⟨plan, hplan⟩ : ∃ plan, Plan.ofOptions [] ⟨none, 8, [], .dict []⟩ = .ok plan := by
    simp [Plan.ofOptions, Plan.weightsOf, Weights.ofValue, Weights.ofEntries, Plan.rulesOf,
      Rule.discover_nil, bind, Except.bind, pure, Except.pure]
  have hrules : ∀ rule ∈ plan.rules, rule.Finishes :=
    Plan.forall_mem_rules (Rule.forall_mem_builtIn Rule.finishes_ofSightings) (by simp) hplan
  obtain ⟨atlas, hrun⟩ := exists_run_of_nothing hrules fun _ => .givesUp
  exact ⟨plan, atlas, hplan, hrun,
    atlas_survives_its_document.2 [] _ plan _ [] _ atlas (by simp) hplan (Or.inl hrun)⟩

end RepoAtlas.Document
