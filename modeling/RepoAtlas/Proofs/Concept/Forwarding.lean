import RepoAtlas.Proofs.Concept.Sightings
import RepoAtlas.Proofs.Graph.Construction

/-!
# What a module passes on

A facade is a module that passes on the surface of others: its re-exports lead to them.  The rule
finds them through the graph, and an edge of the graph no longer says whether it was a re-export.
What it has is a line, so an import is taken for a re-export if one starts on its line.

Usually that is the same, since statements stand on lines of their own.  **If an ordinary import
starts where a re-export does, it counts as well**, and what it adds is what the rule gets wrong
(`facades_forward_lines`).  The number is right exactly if those imports add no module, or so few
that there is no facade in either reading.

The index of a directory passes on what it imports from there, re-export or not; it is left aside
here.
-/

namespace RepoAtlas

open List DependencyGraph

/-- The other modules that some imports of a module lead to. -/
def DependencyGraph.targetsOf (graph : DependencyGraph String) (packages : Packages)
    (module : SourceModule) (specs : List (ImportOutline String Span)) : Finset String :=
  (specs.filterMap fun spec =>
    (resolveImport (graph.nodes.map (·.path)) packages module spec).path?).toFinset.erase
      module.path

namespace ModuleOutline

def reexports (module : SourceModule) : List (ImportOutline String Span) :=
  module.imports.filter (·.isReexport)

/-- The imports that start where a re-export starts. -/
def besideReexports (module : SourceModule) : List (ImportOutline String Span) :=
  module.imports.filter fun spec =>
    module.reexports.any (·.span.startLine == spec.span.startLine)

lemma reexports_subset (module : SourceModule) : module.reexports ⊆ module.besideReexports := by
  intro spec hspec
  refine mem_filter.2 ⟨mem_of_mem_filter hspec, ?_⟩
  exact any_eq_true.2 ⟨spec, hspec, beq_self_eq_true _⟩

end ModuleOutline

namespace DependencyGraph

variable {graph : DependencyGraph String} {packages : Packages} {module : SourceModule}
  {specs more : List (ImportOutline String Span)} {path : String}

lemma mem_targetsOf : path ∈ graph.targetsOf packages module specs ↔
    path ≠ module.path ∧ ∃ spec ∈ specs,
      (resolveImport (graph.nodes.map (·.path)) packages module spec).path? = some path := by
  simp [targetsOf]

lemma targetsOf_mono (h : specs ⊆ more) :
    graph.targetsOf packages module specs ⊆ graph.targetsOf packages module more := by
  intro path hpath
  obtain ⟨hother, spec, hspec, hresolve⟩ := mem_targetsOf.1 hpath
  exact mem_targetsOf.2 ⟨hother, spec, h hspec, hresolve⟩

end DependencyGraph

namespace ArchitectureRules

variable {modules : List SourceModule} {packages : Packages} {graph : DependencyGraph String}
  {analysis : GraphAnalysis String} {manifest : ManifestInfo String} {here : Surroundings}
  {module : SourceModule} {path : String}

/-! ## Edges and imports -/

lemma mem_forwardedTargets_iff {node : ℕ} (hnode : here.graph.indexOf? module.path = some node) :
    path ∈ forwardedTargets here module ↔ path ≠ module.path ∧
      ∃ edge ∈ here.edgesFrom node,
        edge.target.bind here.graph.path? = some path ∧ forwards module edge path = true := by
  simp only [forwardedTargets, hnode, mem_eraseDups, mem_filterMap, Option.bind_eq_bind,
    Option.bind_eq_some_iff, Option.pure_def, Option.ite_none_right_eq_some, Option.some.injEq,
    Bool.and_eq_true, bne_iff_ne]
  constructor
  · rintro ⟨edge, hedge, target, htarget, _, hpath, ⟨hforwards, hother⟩, rfl⟩
    exact ⟨hother, edge, hedge, ⟨target, htarget, hpath⟩, hforwards⟩
  · rintro ⟨hother, edge, hedge, ⟨target, htarget, hpath⟩, hforwards⟩
    exact ⟨edge, hedge, target, htarget, path, hpath, ⟨hforwards, hother⟩, rfl⟩

/-- A module that is no index passes on what is imported where a re-export starts. -/
lemma forwards_eq (hindex : isIndex module.path = false) (edge : GraphEdge String) :
    forwards module edge path = module.reexports.any (·.span.startLine == edge.line) := by
  simp [forwards, hindex, ModuleOutline.reexports, any_filter]

/-- **What is passed on is what the imports next to re-exports lead to.** -/
lemma mem_forwardedTargets (hbuild : build modules packages = .ok here.graph)
    (hmodule : module ∈ modules) (hindex : isIndex module.path = false) :
    path ∈ forwardedTargets here module ↔
      path ∈ here.graph.targetsOf packages module module.besideReexports := by
  obtain ⟨ordered, node, hgraph, hsource, hnode⟩ := exists_node_of_build hbuild hmodule
  have hpaths : here.graph.nodes.map (·.path) = ordered.map (·.path) := by
    rw [hgraph, paths_ofOrdered]
  have hedges : ∀ edge, edge ∈ here.edgesFrom node ↔ ∃ spec ∈ module.imports,
      edge = edgeOf (ordered.map (·.path)) packages node module spec := by
    intro edge
    rw [← mem_edgesFrom_iff hsource, ← hgraph, Surroundings.edgesFrom, mem_filter, beq_iff_eq]
  simp only [mem_forwardedTargets_iff hnode, hedges, forwards_eq hindex, mem_targetsOf,
    ModuleOutline.besideReexports, mem_filter, hpaths]
  refine and_congr_right fun _ => ?_
  constructor
  · rintro ⟨-, ⟨spec, hspec, rfl⟩, htarget, hbeside⟩
    rw [path?_target_edgeOf hpaths] at htarget
    exact ⟨spec, ⟨hspec, hbeside⟩, htarget⟩
  · rintro ⟨spec, ⟨hspec, hbeside⟩, hresolve⟩
    refine ⟨_, ⟨spec, hspec, rfl⟩, ?_, hbeside⟩
    rw [path?_target_edgeOf hpaths, hresolve]

lemma length_forwardedTargets (hbuild : build modules packages = .ok here.graph)
    (hmodule : module ∈ modules) (hindex : isIndex module.path = false) :
    (forwardedTargets here module).length =
      (here.graph.targetsOf packages module module.besideReexports).card := by
  have hnodup : (forwardedTargets here module).Nodup := by
    unfold forwardedTargets
    split
    · exact nodup_nil
    · exact Naming.nodup_eraseDups _
  have hsame : (forwardedTargets here module).toFinset =
      here.graph.targetsOf packages module module.besideReexports := by
    ext path
    rw [mem_toFinset]
    exact mem_forwardedTargets hbuild hmodule hindex
  rw [← hsame, toFinset_card_of_nodup hnodup]

/-! ## What is reported -/

/-- What the concepts of a rule for some path say about how many modules are passed on. -/
def reportedCounts (rule : Rule) (here : Surroundings) (path : String) : List (Option Value) :=
  ((rule.emit here).findings.filter (·.concept.file == path)).map
    (·.concept.evidence.lookup "forwarded")

/-- The rule reports a path if there are two modules or more, once, and says how many. -/
def ReportsExactly (rule : Rule) (here : Surroundings) (path : String) (count : ℕ) : Prop :=
  reportedCounts rule here path = if 2 ≤ count then [some (.int count)] else []

/-- A rule that reports one number reports another one if the two are equal or both too small. -/
lemma ReportsExactly.iff {rule : Rule} {count other : ℕ} (h : ReportsExactly rule here path count) :
    ReportsExactly rule here path other ↔ other = count ∨ other < 2 ∧ count < 2 := by
  rw [ReportsExactly] at h
  rw [ReportsExactly, h]
  split_ifs <;> simp <;> omega

lemma facadeSighting?_eq_none_iff :
    facadeSighting? here module = none ↔ (forwardedTargets here module).length < 2 := by
  simp [facadeSighting?]

/-- A sighting is of the module, and it says how many others that passes on. -/
lemma count_of_facadeSighting? {sighting : Sighting} (hmodule : module ∈ here.modules)
    (h : facadeSighting? here module = some sighting) :
    sighting.file = module.path ∧ sighting.evidence.lookup "forwarded" =
      some (.int (forwardedTargets here module).length) := by
  have hsound := isSound_of_mem_facades (mem_filterMap.2 ⟨module, hmodule, h⟩)
  obtain ⟨-, h⟩ := Option.ite_none_left_eq_some.1 h
  cases h
  exact ⟨rfl, by rw [hsound.evidence_eq]; rfl⟩

/-- **A module is reported for itself only.** -/
lemma reportsExactly_forwardedTargets (hdistinct : (here.modules.map (·.path)).Nodup)
    (hmodule : module ∈ here.modules) :
    ReportsExactly (.ofSightings "facade_module" .architecturalPattern "Facade Module" facades) here
      module.path (forwardedTargets here module).length := by
  have hothers : ∀ other ∈ here.modules, other.path ≠ module.path →
      (facadeSighting? here other).filter (·.file == module.path) = none := by
    intro other hother hpath
    rw [Option.filter_eq_none_iff]
    intro sighting hsighting
    rw [(count_of_facadeSighting? hother hsighting).1]
    simpa using hpath
  have hcounts : reportedCounts
        (.ofSightings "facade_module" .architecturalPattern "Facade Module" facades) here
        module.path =
      ((facadeSighting? here module).filter (·.file == module.path)).toList.map
        (·.evidence.lookup "forwarded") := by
    rw [← filterMap_key hdistinct hmodule hothers, ← filter_filterMap]
    simp only [reportedCounts, Rule.ofSightings, filter_map, map_map, facades]
    rfl
  rw [ReportsExactly, hcounts]
  cases hsighting : facadeSighting? here module with
  | none =>
      have hfew := facadeSighting?_eq_none_iff.1 hsighting
      rw [if_neg (Nat.not_le.2 hfew)]
      rfl
  | some sighting =>
      have hmany : 2 ≤ (forwardedTargets here module).length := by
        by_contra hfew
        rw [facadeSighting?_eq_none_iff.2 (Nat.not_le.1 hfew)] at hsighting
        cases hsighting
      obtain ⟨hfile, hsays⟩ := count_of_facadeSighting? hmodule hsighting
      rw [if_pos hmany, Option.filter_some, if_pos (beq_iff_eq.2 hfile), Option.toList_some,
        map_singleton, hsays]

lemma facades_mem_builtIn :
    .ofSightings "facade_module" .architecturalPattern "Facade Module" facades ∈ Rule.builtIn := by
  simp [Rule.builtIn, all]

/-- **What is reported is what is imported where re-exports start.** -/
lemma reportsExactly_besideReexports {rule : Rule} (hrule : rule ∈ Rule.builtIn)
    (hname : rule.name = "facade_module") (hbuild : build modules packages = .ok graph)
    (analysis : GraphAnalysis String) (manifest : ManifestInfo String) (hmodule : module ∈ modules)
    (hindex : isIndex module.path = false) :
    ReportsExactly rule (.ofModules modules graph analysis manifest) module.path
      (graph.targetsOf packages module module.besideReexports).card := by
  obtain rfl : rule =
      .ofSightings "facade_module" .architecturalPattern "Facade Module" facades :=
    Rule.eq_of_mem_builtIn hrule facades_mem_builtIn hname
  have hperm : (Surroundings.ofModules modules graph analysis manifest).modules ~ modules :=
    byKey_perm ModuleOutline.path modules
  have hdistinct := (hperm.map (·.path)).nodup_iff.2 (build_eq_ok_iff.1 hbuild).1
  have hfound := reportsExactly_forwardedTargets hdistinct (hperm.mem_iff.2 hmodule)
  rwa [length_forwardedTargets hbuild hmodule hindex] at hfound

/-- **The rule counts lines with re-exports, not re-exports.**  It finds the facades, and says what
they pass on, exactly if the ordinary imports on these lines add nothing to the re-exports, or there
are not two modules in all. -/
theorem facades_forward_lines {rule : Rule} (hrule : rule ∈ Rule.builtIn)
    (hname : rule.name = "facade_module") {modules : List SourceModule} {packages : Packages}
    {graph : DependencyGraph String} (hbuild : build modules packages = .ok graph)
    (analysis : GraphAnalysis String) (manifest : ManifestInfo String) {module : SourceModule}
    (hmodule : module ∈ modules) (hindex : isIndex module.path = false) :
    ReportsExactly rule (.ofModules modules graph analysis manifest) module.path
        (graph.targetsOf packages module module.besideReexports).card ∧
      (ReportsExactly rule (.ofModules modules graph analysis manifest) module.path
          (graph.targetsOf packages module module.reexports).card ↔
        (graph.targetsOf packages module module.besideReexports).card < 2 ∨
          graph.targetsOf packages module module.besideReexports ⊆
            graph.targetsOf packages module module.reexports) := by
  have hfound :=
    reportsExactly_besideReexports hrule hname hbuild analysis manifest hmodule hindex
  refine ⟨hfound, ?_⟩
  have hsub : graph.targetsOf packages module module.reexports ⊆
      graph.targetsOf packages module module.besideReexports :=
    targetsOf_mono module.reexports_subset
  have hle := Finset.card_le_card hsub
  rw [hfound.iff]
  constructor
  · rintro (heq | ⟨-, hfew⟩)
    · exact Or.inr (Finset.eq_of_subset_of_card_le hsub heq.ge).ge
    · exact Or.inl hfew
  · rintro (hfew | hsup)
    · exact Or.inr ⟨hle.trans_lt hfew, hfew⟩
    · exact Or.inl (hle.antisymm (Finset.card_le_card hsup))

/-- A module with imports of others in its directory: the line of each, and whether it is a
re-export. -/
def gathering (imports : List (String × Int × Bool)) : SourceModule where
  path := "lib/all.js"
  language := .javaScript
  grammar := "javascript"
  functions := []
  classes := []
  imports := imports.map fun (target, line, isReexport) => ⟨target, [], ⟨line, line⟩, isReexport⟩
  exports := []
  routes := []
  hasMainGuard := false

/-- The directory around it. -/
def gatheringPlace (imports : List (String × Int × Bool)) : List SourceModule :=
  let leaf (path : String) : SourceModule :=
    ⟨path, .javaScript, "javascript", [], [], [], [], [], false⟩
  [leaf "lib/a.js", gathering imports, leaf "lib/b.js", leaf "lib/c.js"]

lemma build_gatheringPlace (imports : List (String × Int × Bool)) :
    build (gatheringPlace imports) ⟨[], []⟩ =
      .ok (ofOrdered (gatheringPlace imports) ⟨[], []⟩) := by
  have hpaths : ["lib/a.js", "lib/all.js", "lib/b.js", "lib/c.js"].Pairwise (· < ·) := by decide
  exact build_of_ascending _ (pairwise_map.1 hpaths)

/-- Two modules are passed on, one of them twice, and a third one is only used. -/
def twoPassedOn : List (String × Int × Bool) :=
  [("./a", 1, true), ("./b", 1, true), ("./a", 2, true), ("./c", 3, false)]

theorem twoPassedOn_are_reported :
    ∃ rule ∈ Rule.builtIn, rule.name = "facade_module" ∧
      ∃ graph, build (gatheringPlace twoPassedOn) ⟨[], []⟩ = .ok graph ∧
        gathering twoPassedOn ∈ gatheringPlace twoPassedOn ∧ isIndex "lib/all.js" = false ∧
        ReportsExactly rule (.ofModules (gatheringPlace twoPassedOn) graph .empty .empty)
          "lib/all.js" 2 := by
  have hbuild := build_gatheringPlace twoPassedOn
  have hmodule : gathering twoPassedOn ∈ gatheringPlace twoPassedOn := by simp [gatheringPlace]
  have hindex : isIndex "lib/all.js" = false := by decide +kernel
  obtain ⟨-, hiff⟩ :=
    facades_forward_lines facades_mem_builtIn rfl hbuild .empty .empty hmodule hindex
  have hcount : ((ofOrdered (gatheringPlace twoPassedOn) ⟨[], []⟩).targetsOf ⟨[], []⟩
      (gathering twoPassedOn) (gathering twoPassedOn).reexports).card = 2 := by decide +kernel
  have hclaimed := hiff.2 (Or.inr (by decide +kernel))
  rw [hcount] at hclaimed
  exact ⟨_, facades_mem_builtIn, rfl, _, hbuild, hmodule, hindex, hclaimed⟩

/-- **An import that starts where a re-export does counts as one**, so a module is reported that
passes on only one other. -/
theorem import_beside_reexport_counts :
    ¬ ∀ rule ∈ Rule.builtIn, rule.name = "facade_module" →
      ∀ (modules : List SourceModule) (packages : Packages) (graph : DependencyGraph String)
        (analysis : GraphAnalysis String) (manifest : ManifestInfo String),
        build modules packages = .ok graph → ∀ module ∈ modules, isIndex module.path = false →
          ReportsExactly rule (.ofModules modules graph analysis manifest) module.path
            (graph.targetsOf packages module module.reexports).card := by
  intro h
  let imports : List (String × Int × Bool) := [("./a", 1, true), ("./b", 1, false)]
  have hmodule : gathering imports ∈ gatheringPlace imports := by simp [gatheringPlace]
  have hindex : isIndex (gathering imports).path = false := by decide +kernel
  have hbuild := build_gatheringPlace imports
  have hclaimed :=
    h _ facades_mem_builtIn rfl _ _ _ .empty .empty hbuild _ hmodule hindex
  have hfound :=
    reportsExactly_besideReexports facades_mem_builtIn rfl hbuild .empty .empty hmodule hindex
  exact absurd (hfound.iff.1 hclaimed) (by decide +kernel)

end ArchitectureRules

end RepoAtlas
