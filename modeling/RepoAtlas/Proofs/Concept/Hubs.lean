import RepoAtlas.Proofs.Concept.Neighbours
import RepoAtlas.Proofs.Concept.Sightings

/-!
# What a hub is counted by

A hub is a module that many others import.  Edges may be parallel, and the rule is right not to
count them: it counts paths, each once, and no path is that of two modules.

But an edge may lead back to the module that it starts from, and then the module is one of its own
importers and one of those it imports.  **Of a module that imports itself the rule counts one more,
in both directions** (`length_importers`, `length_imported`).  So the numbers are those of the
others exactly if the module does not import itself, and a module with one importer too few is
reported if it does (`hubs_count_themselves`).
-/

namespace RepoAtlas

open List DependencyGraph

/-! ## The others -/

namespace DependencyGraph

variable (graph : DependencyGraph String) (path : String)

/-- The other modules that import a module. -/
def othersInto : Finset String :=
  (graph.nodes.map (·.path)).toFinset.filter fun other =>
    other ≠ path ∧ graph.Links other path

/-- The other modules that a module imports. -/
def othersFrom : Finset String :=
  (graph.nodes.map (·.path)).toFinset.filter fun other =>
    other ≠ path ∧ graph.Links path other

/-- One for a module that imports itself. -/
def ownShare : ℕ := if graph.Links path path then 1 else 0

variable {graph path} {other : String}

lemma mem_othersInto : other ∈ graph.othersInto path ↔ other ≠ path ∧ graph.Links other path := by
  simp only [othersInto, Finset.mem_filter, mem_toFinset, and_iff_right_iff_imp]
  exact fun h => h.2.mem_paths.1

lemma mem_othersFrom : other ∈ graph.othersFrom path ↔ other ≠ path ∧ graph.Links path other := by
  simp only [othersFrom, Finset.mem_filter, mem_toFinset, and_iff_right_iff_imp]
  exact fun h => h.2.mem_paths.2

lemma ownShare_eq_zero_iff : graph.ownShare path = 0 ↔ ¬ graph.Links path path := by
  simp [ownShare]

/-- A list without repetitions is as long as there are others in it, and one longer if the path
itself is in it. -/
lemma length_eq_card_add {paths : List String} {others : Finset String} (hnodup : paths.Nodup)
    (hothers : ∀ other, other ∈ others ↔ other ≠ path ∧ other ∈ paths)
    (hself : path ∈ paths ↔ graph.Links path path) :
    paths.length = others.card + graph.ownShare path := by
  have herase : others = paths.toFinset.erase path := by
    ext other
    rw [hothers, Finset.mem_erase, mem_toFinset]
  rw [← toFinset_card_of_nodup hnodup, herase, ownShare]
  by_cases hmem : path ∈ paths
  · rw [if_pos (hself.1 hmem)]
    exact (Finset.card_erase_add_one (mem_toFinset.2 hmem)).symm
  · rw [if_neg (mt hself.2 hmem), Finset.erase_eq_of_notMem (mt mem_toFinset.1 hmem), add_zero]

end DependencyGraph

namespace Surroundings

variable {here : Surroundings} {path : String}

lemma length_importers (hd : here.graph.PathsDistinct) : (here.importers path).length =
    (here.graph.othersInto path).card + here.graph.ownShare path := by
  refine length_eq_card_add (nodup_importers path) (fun other => ?_) (mem_importers hd)
  rw [mem_othersInto, mem_importers hd]

lemma length_imported (hd : here.graph.PathsDistinct) : (here.imported path).length =
    (here.graph.othersFrom path).card + here.graph.ownShare path := by
  refine length_eq_card_add (nodup_imported path) (fun other => ?_) (mem_imported hd)
  rw [mem_othersFrom, mem_imported hd]

end Surroundings

/-! ## Reports -/

namespace ArchitectureRules

variable {here : Surroundings} {module : SourceModule} {graph : DependencyGraph String}

/-- The concept says of a module how many import it and how many it imports, and judges by these
numbers whether the importers are the larger part. -/
def Reports (concept : Concept String) (path : String) (fanIn fanOut : ℕ) : Prop :=
  concept.file = path ∧ concept.evidence.lookup "fan_in" = some (.int fanIn) ∧
    concept.evidence.lookup "fan_out" = some (.int fanOut) ∧
    concept.evidence.lookup "fan_in_dominant" = some (.bool (2 * fanOut ≤ fanIn))

/-- The concept is about a module that enough others import, and its numbers are those of the
others. -/
def CountsOthers (graph : DependencyGraph String) (concept : Concept String) : Prop :=
  hubMinImporters ≤ (graph.othersInto concept.file).card ∧
    concept.evidence.lookup "fan_in" = some (.int (graph.othersInto concept.file).card) ∧
    concept.evidence.lookup "fan_out" = some (.int (graph.othersFrom concept.file).card)

/-- A module is reported if there are enough importers with itself. -/
lemma exists_hubSighting?_iff (hd : here.graph.PathsDistinct) :
    (∃ sighting, hubSighting? here module = some sighting) ↔
      hubMinImporters ≤
        (here.graph.othersInto module.path).card + here.graph.ownShare module.path := by
  rw [← Surroundings.length_importers hd]
  simp [hubSighting?]

lemma reports_of_hubSighting? (hd : here.graph.PathsDistinct) {sighting : Sighting}
    (hmodule : module ∈ here.modules) (h : hubSighting? here module = some sighting)
    (label rule : String) :
    Reports (sighting.toConcept .architecturalPattern label rule) module.path
      ((here.graph.othersInto module.path).card + here.graph.ownShare module.path)
      ((here.graph.othersFrom module.path).card + here.graph.ownShare module.path) := by
  have hsound := isSound_of_mem_hubs (mem_filterMap.2 ⟨module, hmodule, h⟩)
  obtain ⟨-, h⟩ := Option.ite_none_left_eq_some.1 h
  rw [Reports, Sighting.toConcept, hsound.evidence_eq, ← Surroundings.length_importers hd,
    ← Surroundings.length_imported hd]
  cases h
  exact ⟨rfl, rfl, rfl, rfl⟩

/-- A concept with the numbers that the rule finds is right about the others exactly if the module
does not import itself. -/
lemma countsOthers_iff {concept : Concept String} {path : String}
    (hmany : hubMinImporters ≤ (graph.othersInto path).card + graph.ownShare path)
    (h : Reports concept path ((graph.othersInto path).card + graph.ownShare path)
      ((graph.othersFrom path).card + graph.ownShare path)) :
    CountsOthers graph concept ↔ ¬ graph.Links path path := by
  obtain ⟨rfl, hin, hout, -⟩ := h
  rw [← ownShare_eq_zero_iff]
  constructor
  · rintro ⟨-, hothers, -⟩
    have hcount := Value.int.inj (Option.some.inj (hin.symm.trans hothers))
    omega
  · intro hnone
    rw [hnone, Nat.add_zero] at hmany hin hout
    exact ⟨hmany, hin, hout⟩

def hubRule : Rule := .ofSightings "hub_module" .architecturalPattern "Hub Module" hubs

lemma hubRule_mem_builtIn : hubRule ∈ Rule.builtIn := by simp [hubRule, Rule.builtIn, all]

lemma mem_emit_hubRule {finding : Finding} : finding ∈ (hubRule.emit here).findings ↔
    ∃ module ∈ here.modules, ∃ sighting, hubSighting? here module = some sighting ∧
      finding = ⟨sighting.toConcept .architecturalPattern "Hub Module" "hub_module", true⟩ :=
  Rule.mem_emit_ofSightings (·.modules) hubSighting?

lemma exists_hubFinding_iff (hd : here.graph.PathsDistinct) (hmodule : module ∈ here.modules) :
    (∃ finding ∈ (hubRule.emit here).findings, finding.concept.file = module.path) ↔
      hubMinImporters ≤
        (here.graph.othersInto module.path).card + here.graph.ownShare module.path := by
  constructor
  · rintro ⟨finding, hfinding, hfile⟩
    obtain ⟨other, hother, sighting, hsighting, rfl⟩ := mem_emit_hubRule.1 hfinding
    have hmany := (exists_hubSighting?_iff hd).1 ⟨sighting, hsighting⟩
    rw [(reports_of_hubSighting? hd hother hsighting _ _).1] at hfile
    rwa [hfile] at hmany
  · intro hmany
    obtain ⟨sighting, hsighting⟩ := (exists_hubSighting?_iff hd).2 hmany
    refine ⟨_, mem_emit_hubRule.2 ⟨module, hmodule, sighting, hsighting, rfl⟩, ?_⟩
    exact (reports_of_hubSighting? hd hmodule hsighting _ _).1

lemma reports_of_mem_emit_hubRule (hd : here.graph.PathsDistinct) {finding : Finding}
    (h : finding ∈ (hubRule.emit here).findings) : ∃ module ∈ here.modules,
      Reports finding.concept module.path
        ((here.graph.othersInto module.path).card + here.graph.ownShare module.path)
        ((here.graph.othersFrom module.path).card + here.graph.ownShare module.path) ∧
      (CountsOthers here.graph finding.concept ↔ ¬ here.graph.Links module.path module.path) := by
  obtain ⟨module, hmodule, sighting, hsighting, rfl⟩ := mem_emit_hubRule.1 h
  have hmany := (exists_hubSighting?_iff hd).1 ⟨sighting, hsighting⟩
  have hreport := reports_of_hubSighting? hd hmodule hsighting "Hub Module" "hub_module"
  exact ⟨module, hmodule, hreport, countsOthers_iff hmany hreport⟩

/-- **The rule counts a module among its own importers.**  A module is reported if there are enough
with itself, and what is reported are these numbers.  Parallel edges make no difference, so they are
the numbers of the others exactly if the module does not import itself. -/
theorem hubs_count_themselves {rule : Rule} (hrule : rule ∈ Rule.builtIn)
    (hname : rule.name = "hub_module") {modules : List SourceModule} {packages : Packages}
    {graph : DependencyGraph String} (hbuild : build modules packages = .ok graph)
    (analysis : GraphAnalysis String) (manifest : ManifestInfo String) :
    let findings := (rule.emit (.ofModules modules graph analysis manifest)).findings
    (∀ module ∈ modules, (∃ finding ∈ findings, finding.concept.file = module.path) ↔
      hubMinImporters ≤ (graph.othersInto module.path).card + graph.ownShare module.path) ∧
    ∀ finding ∈ findings, ∃ module ∈ modules,
      Reports finding.concept module.path
        ((graph.othersInto module.path).card + graph.ownShare module.path)
        ((graph.othersFrom module.path).card + graph.ownShare module.path) ∧
      (CountsOthers graph finding.concept ↔ ¬ graph.Links module.path module.path) := by
  obtain rfl : rule = hubRule := Rule.eq_of_mem_builtIn hrule hubRule_mem_builtIn hname
  obtain ⟨hdistinct, hgraph⟩ := build_eq_ok_iff.1 hbuild
  have hd : (Surroundings.ofModules modules graph analysis manifest).graph.PathsDistinct :=
    hgraph ▸ pathsDistinct_ofOrdered hdistinct
  have hmodules : ∀ module,
      module ∈ (Surroundings.ofModules modules graph analysis manifest).modules ↔
        module ∈ modules :=
    fun module => Surroundings.mem_modules_ofModules modules graph analysis manifest
  intro findings
  constructor
  · exact fun module hmodule => exists_hubFinding_iff hd ((hmodules module).2 hmodule)
  · intro finding hfinding
    obtain ⟨module, hmodule, hreport⟩ := reports_of_mem_emit_hubRule hd hfinding
    exact ⟨module, (hmodules module).1 hmodule, hreport⟩

/-- A module and three others around it: one of them imports it twice and one once.  What the third
one imports, and the module itself, is left open. -/
def circle (third own : List String) : List SourceModule :=
  [importing "lib/a.js" ["./core", "./core"], importing "lib/b.js" ["./core"],
    importing "lib/c.js" third, importing "lib/core.js" own]

lemma build_circle (third own : List String) :
    build (circle third own) ⟨[], []⟩ = .ok (ofOrdered (circle third own) ⟨[], []⟩) := by
  have hpaths : ["lib/a.js", "lib/b.js", "lib/c.js", "lib/core.js"].Pairwise (· < ·) := by decide
  exact build_of_ascending _ (pairwise_map.1 hpaths)

lemma core_mem_circle (third own : List String) :
    importing "lib/core.js" own ∈ circle third own := by
  simp [circle]

/-- Four imports of a module by three others make it a hub. -/
theorem circle_has_a_hub :
    ∃ rule ∈ Rule.builtIn, rule.name = "hub_module" ∧
      ∃ graph, build (circle ["./core"] ["./a"]) ⟨[], []⟩ = .ok graph ∧
        ∃ finding ∈
            (rule.emit (.ofModules (circle ["./core"] ["./a"]) graph .empty .empty)).findings,
          Reports finding.concept "lib/core.js" 3 1 ∧ CountsOthers graph finding.concept := by
  let graph := ofOrdered (circle ["./core"] ["./a"]) ⟨[], []⟩
  have hbuild : build (circle ["./core"] ["./a"]) ⟨[], []⟩ = .ok graph := build_circle _ _
  obtain ⟨hreported, hcounts⟩ :=
    hubs_count_themselves hubRule_mem_builtIn rfl hbuild .empty .empty
  obtain ⟨finding, hfinding, hfile⟩ := (hreported _ (core_mem_circle _ _)).2 (by decide +kernel)
  obtain ⟨module, -, hreport, hiff⟩ := hcounts finding hfinding
  have hpath : module.path = "lib/core.js" := hreport.1.symm.trans hfile
  have hfanIn : (graph.othersInto "lib/core.js").card + graph.ownShare "lib/core.js" = 3 := by
    decide +kernel
  have hfanOut : (graph.othersFrom "lib/core.js").card + graph.ownShare "lib/core.js" = 1 := by
    decide +kernel
  have hother : ¬ graph.Links "lib/core.js" "lib/core.js" := by decide +kernel
  rw [hpath, hfanIn, hfanOut] at hreport
  rw [hpath] at hiff
  exact ⟨_, hubRule_mem_builtIn, rfl, _, hbuild, finding, hfinding, hreport, hiff.2 hother⟩

/-- **A module that imports itself needs one importer less.** -/
theorem own_import_makes_a_hub :
    ¬ ∀ rule ∈ Rule.builtIn, rule.name = "hub_module" →
      ∀ (modules : List SourceModule) (packages : Packages) (graph : DependencyGraph String)
        (analysis : GraphAnalysis String) (manifest : ManifestInfo String),
        build modules packages = .ok graph →
          ∀ finding ∈ (rule.emit (.ofModules modules graph analysis manifest)).findings,
            CountsOthers graph finding.concept := by
  intro h
  let modules := circle [] ["./core"]
  let graph := ofOrdered modules ⟨[], []⟩
  let here := Surroundings.ofModules modules graph .empty .empty
  have hbuild : build modules ⟨[], []⟩ = .ok graph := build_circle _ _
  have hd : here.graph.PathsDistinct := (by decide +kernel : graph.PathsDistinct)
  have hmodule : importing "lib/core.js" ["./core"] ∈ here.modules :=
    (Surroundings.mem_modules_ofModules modules graph .empty .empty).2 (core_mem_circle _ _)
  have hmany : hubMinImporters ≤
      (graph.othersInto "lib/core.js").card + graph.ownShare "lib/core.js" := by decide +kernel
  have hself : graph.Links "lib/core.js" "lib/core.js" := by decide +kernel
  obtain ⟨finding, hfinding, hfile⟩ := (exists_hubFinding_iff hd hmodule).2 hmany
  obtain ⟨module, -, hreport, hiff⟩ := reports_of_mem_emit_hubRule hd hfinding
  have hpath : module.path = "lib/core.js" := hreport.1.symm.trans hfile
  have hclaimed := h _ hubRule_mem_builtIn rfl _ _ _ .empty .empty hbuild finding hfinding
  rw [hpath] at hiff
  exact hiff.1 hclaimed hself

end ArchitectureRules

end RepoAtlas
