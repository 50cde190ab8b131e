import RepoAtlas.Proofs.Data.Ascending
import RepoAtlas.Proofs.Graph.CycleReport
import RepoAtlas.Proofs.Resolution.Known
import RepoAtlas.Graph.Build

/-!
# What a built graph says

A graph is built from modules that are handed over in some order.  `LaidOut` says what it looks
like: the modules ascend by their paths, and every import is one edge, which says in full what
resolution made of the import.

An edge keeps the answer of resolution in three places, its kind, its target and its package.
`GraphEdge.IsConsistent` says that the three agree.  This rests on `mem_of_resolveImport`: were
resolution to answer with a path of its own making, the edge would be internal and have no target.
-/

namespace RepoAtlas

open List

/-- The kind, the target and the package of an edge agree. -/
structure GraphEdge.IsConsistent {τ : Type} (edge : GraphEdge τ) : Prop where
  internal : edge.kind = .internal ↔ edge.target.isSome
  external : edge.kind = .external ↔ edge.package.isSome
  unresolved : edge.kind = .unresolved ↔ edge.target = none ∧ edge.package = none

namespace DependencyGraph

variable {modules ordered : List SourceModule} {packages : Packages}
  {graph : DependencyGraph String}

/-- Two of the modules have the same path. -/
def RepeatsPath (modules : List SourceModule) : Prop :=
  ∃ (i j : ℕ) (a b : SourceModule),
    i < j ∧ modules[i]? = some a ∧ modules[j]? = some b ∧ a.path = b.path

/-- What an edge says that its import refers to. -/
def resolutionOf (graph : DependencyGraph String) (edge : GraphEdge String) : Resolution :=
  match edge.target.bind graph.path?, edge.package with
  | some path, _ => .internal path
  | none, some package => .external package
  | none, none => .unresolved

/-- The graph of some modules, which are numbered as they stand in `ordered`. -/
structure LaidOut (graph : DependencyGraph String) (packages : Packages)
    (modules ordered : List SourceModule) : Prop where
  perm : ordered ~ modules
  ascending : Ascending (·.path) ordered
  nodes : graph.nodes = ordered.map fun module => ⟨module.path, module.language⟩
  /-- Module by module, every import is one edge: it has the number of the module, the text and the
  line of the import, and says what resolution found. -/
  edges : graph.edges.map (fun edge =>
      (edge.source, edge.specifier, edge.line, graph.resolutionOf edge)) =
    (ordered.mapIdx fun source module => module.imports.map fun spec =>
      (source, spec.target, spec.span.startLine,
        resolveImport (ordered.map (·.path)) packages module spec)).flatten
  consistent : ∀ edge ∈ graph.edges, edge.IsConsistent
  inside : ∀ edge ∈ graph.edges, ∀ target ∈ edge.target, target < graph.size

/-! ## Edges -/

section Edges

variable {paths : List String} {source : ℕ} {module : SourceModule}
  {spec : ImportOutline String Span} {path : String}

/-- **Resolution answers with the path of a module or with none.** -/
lemma mem_of_resolveImport (h : resolveImport paths packages module spec = .internal path) :
    path ∈ paths := by
  unfold resolveImport at h
  split at h
  · exact Resolution.Python.mem_of_resolve h
  · exact Resolution.JavaScript.mem_of_resolve h
  · cases h

/-- **The three kinds of edges.**  All that is said of edges is read off here. -/
lemma edgeOf_cases (paths : List String) (packages : Packages) (source : ℕ)
    (module : SourceModule) (spec : ImportOutline String Span) :
    (∃ path target, resolveImport paths packages module spec = .internal path ∧
      paths[target]? = some path ∧ edgeOf paths packages source module spec =
        ⟨source, .internal, spec.target, spec.span.startLine, some target, none⟩) ∨
    (∃ package, resolveImport paths packages module spec = .external package ∧
      edgeOf paths packages source module spec =
        ⟨source, .external, spec.target, spec.span.startLine, none, some package⟩) ∨
    (resolveImport paths packages module spec = .unresolved ∧
      edgeOf paths packages source module spec =
        ⟨source, .unresolved, spec.target, spec.span.startLine, none, none⟩) := by
  unfold edgeOf
  cases hresolution : resolveImport paths packages module spec with
  | internal path =>
      have hmem := mem_of_resolveImport hresolution
      cases hfound : paths.findIdx? (· == path) with
      | none => simpa using findIdx?_eq_none_iff.1 hfound path hmem
      | some target =>
          obtain ⟨hlt, hpath, -⟩ := findIdx?_eq_some_iff_getElem.1 hfound
          refine Or.inl ⟨path, target, rfl, ?_, by simp [Resolution.kind, Resolution.path?,
            Resolution.package?, hfound]⟩
          rw [getElem?_eq_getElem hlt, eq_of_beq hpath]
  | external package => exact Or.inr (Or.inl ⟨package, rfl, rfl⟩)
  | unresolved => exact Or.inr (Or.inr ⟨rfl, rfl⟩)

lemma isConsistent_edgeOf (paths : List String) (packages : Packages) (source : ℕ)
    (module : SourceModule) (spec : ImportOutline String Span) :
    (edgeOf paths packages source module spec).IsConsistent := by
  obtain ⟨-, target, -, -, hedge⟩ | ⟨package, -, hedge⟩ | ⟨-, hedge⟩ :=
    edgeOf_cases paths packages source module spec
  all_goals
    rw [hedge]
    constructor <;> simp

lemma target_edgeOf_lt {target : ℕ}
    (h : target ∈ (edgeOf paths packages source module spec).target) : target < paths.length := by
  obtain ⟨path, -, hfound⟩ := Option.bind_eq_some_iff.1 (Option.mem_def.1 h)
  exact (findIdx?_eq_some_iff_getElem.1 hfound).1

/-- An edge leads to the module that resolution found. -/
lemma path?_target_edgeOf (hpaths : graph.nodes.map (·.path) = paths) :
    (edgeOf paths packages source module spec).target.bind graph.path? =
      (resolveImport paths packages module spec).path? := by
  obtain ⟨path, target, hresolution, hpath, hedge⟩ | ⟨package, hresolution, hedge⟩ |
    ⟨hresolution, hedge⟩ := edgeOf_cases paths packages source module spec
  · simp [hresolution, hedge, Resolution.path?, path?_eq_getElem?, hpaths, hpath]
  · simp [hresolution, hedge, Resolution.path?]
  · simp [hresolution, hedge, Resolution.path?]

/-- An edge says in full what resolution found. -/
lemma resolutionOf_edgeOf (hpaths : graph.nodes.map (·.path) = paths) :
    graph.resolutionOf (edgeOf paths packages source module spec) =
      resolveImport paths packages module spec := by
  obtain ⟨path, target, hresolution, hpath, hedge⟩ | ⟨package, hresolution, hedge⟩ |
    ⟨hresolution, hedge⟩ := edgeOf_cases paths packages source module spec
  · simp [hresolution, hedge, resolutionOf, path?_eq_getElem?, hpaths, hpath]
  · simp [hresolution, hedge, resolutionOf]
  · simp [hresolution, hedge, resolutionOf]

end Edges

/-! ## The graph -/

lemma paths_ofOrdered (modules : List SourceModule) (packages : Packages) :
    (ofOrdered modules packages).nodes.map (·.path) = modules.map (·.path) := by
  rw [ofOrdered, map_map]
  rfl

lemma exists_edgeOf {edge : GraphEdge String} (h : edge ∈ (ofOrdered modules packages).edges) :
    ∃ source module spec, modules[source]? = some module ∧ spec ∈ module.imports ∧
      edge = edgeOf (modules.map (·.path)) packages source module spec := by
  obtain ⟨imports, himports, hedge⟩ := mem_flatten.1 h
  obtain ⟨source, hsource, rfl⟩ := mem_mapIdx.1 himports
  obtain ⟨spec, hspec, rfl⟩ := mem_map.1 hedge
  exact ⟨source, modules[source], spec, getElem?_eq_getElem hsource, hspec, rfl⟩

/-- The edges from a node are the imports of its module. -/
lemma mem_edgesFrom_iff {source : ℕ} {module : SourceModule} {edge : GraphEdge String}
    (hsource : modules[source]? = some module) :
    edge ∈ (ofOrdered modules packages).edges ∧ edge.source = source ↔
      ∃ spec ∈ module.imports,
        edge = edgeOf (modules.map (·.path)) packages source module spec := by
  constructor
  · rintro ⟨hedge, rfl⟩
    obtain ⟨source, other, spec, hother, hspec, rfl⟩ := exists_edgeOf hedge
    obtain rfl := Option.some.inj (hsource.symm.trans hother)
    exact ⟨spec, hspec, rfl⟩
  · rintro ⟨spec, hspec, rfl⟩
    obtain ⟨hlt, rfl⟩ := List.getElem?_eq_some_iff.1 hsource
    refine ⟨mem_flatten.2 ⟨_, mem_mapIdx.2 ⟨source, hlt, rfl⟩, mem_map_of_mem hspec⟩, rfl⟩

/-- Every path of a node is found, at a node of that path. -/
lemma exists_indexOf? {path : String} (h : path ∈ graph.nodes.map (·.path)) :
    ∃ node, graph.indexOf? path = some node ∧ graph.path? node = some path := by
  obtain ⟨item, hitem, rfl⟩ := mem_map.1 h
  cases hindex : graph.indexOf? item.path with
  | none => simpa using findIdx?_eq_none_iff.1 hindex item hitem
  | some node =>
      obtain ⟨hlt, hpath, -⟩ := findIdx?_eq_some_iff_getElem.1 hindex
      refine ⟨node, rfl, ?_⟩
      rw [path?, getElem?_eq_getElem hlt, Option.map_some, eq_of_beq hpath]

/-- The internal edges of a built graph lead from a node to a node. -/
lemma edgesInside_ofOrdered (modules : List SourceModule) (packages : Packages) :
    (ofOrdered modules packages).EdgesInside := by
  intro edge hedge hkind
  obtain ⟨source, module, spec, hsource, -, rfl⟩ := exists_edgeOf hedge
  have hsize : (ofOrdered modules packages).size = modules.length := length_map _
  rw [hsize]
  refine ⟨(List.getElem?_eq_some_iff.1 hsource).1, ?_⟩
  obtain ⟨target, htarget⟩ :=
    Option.isSome_iff_exists.1 ((isConsistent_edgeOf _ _ _ _ _).internal.1 hkind)
  exact ⟨target, htarget, by simpa using target_edgeOf_lt htarget⟩

lemma laidOut_ofOrdered (hperm : ordered ~ modules) (h : Ascending (·.path) ordered) :
    (ofOrdered ordered packages).LaidOut packages modules ordered where
  perm := hperm
  ascending := h
  nodes := rfl
  edges := by
    have hpaths := paths_ofOrdered ordered packages
    have hsays : ∀ source module spec,
        (ofOrdered ordered packages).resolutionOf
            (edgeOf (ordered.map (·.path)) packages source module spec) =
          resolveImport (ordered.map (·.path)) packages module spec :=
      fun source module spec => resolutionOf_edgeOf hpaths
    have hedges : (ofOrdered ordered packages).edges = (ordered.mapIdx fun source module =>
      module.imports.map (edgeOf (ordered.map (·.path)) packages source module)).flatten := rfl
    simp only [hedges, mapIdx_eq_zipIdx_map, map_flatten, map_map, Function.comp_def, hsays]
    rfl
  consistent edge hedge := by
    obtain ⟨source, module, spec, -, -, rfl⟩ := exists_edgeOf hedge
    exact isConsistent_edgeOf _ packages source module spec
  inside edge hedge target htarget := by
    obtain ⟨source, module, spec, -, -, rfl⟩ := exists_edgeOf hedge
    have hlt := target_edgeOf_lt htarget
    simpa [size, ofOrdered] using hlt

lemma repeatsPath_iff : RepeatsPath modules ↔ ¬ (modules.map (·.path)).Nodup := by
  rw [nodup_iff_getElem?_ne_getElem?]
  constructor
  · rintro ⟨i, j, a, b, hlt, hi, hj, heq⟩ h
    obtain ⟨hbound, -⟩ := List.getElem?_eq_some_iff.1 hj
    refine h i j hlt (by simpa using hbound) ?_
    rw [getElem?_map, getElem?_map, hi, hj]
    exact congrArg some heq
  · intro h
    push Not at h
    obtain ⟨i, j, hlt, hbound, heq⟩ := h
    rw [length_map] at hbound
    rw [getElem?_map, getElem?_map, getElem?_eq_getElem hbound,
      getElem?_eq_getElem (hlt.trans hbound)] at heq
    exact ⟨i, j, _, _, hlt, getElem?_eq_getElem (hlt.trans hbound), getElem?_eq_getElem hbound,
      Option.some.inj heq⟩

lemma build_eq_ok (packages : Packages) (h : (modules.map (·.path)).Nodup) :
    build modules packages = .ok (ofOrdered (inPathOrder modules) packages) := by
  rw [build, if_pos h]

lemma build_eq_ok_iff : build modules packages = .ok graph ↔
    (modules.map (·.path)).Nodup ∧ graph = ofOrdered (inPathOrder modules) packages := by
  constructor
  · intro h
    unfold build at h
    split_ifs at h with hd
    exact ⟨hd, (Except.ok.inj h).symm⟩
  · rintro ⟨hd, rfl⟩
    exact build_eq_ok packages hd

/-- Modules that are in order are numbered as they stand. -/
lemma build_of_ascending (packages : Packages) (h : Ascending ModuleOutline.path modules) :
    build modules packages = .ok (ofOrdered modules packages) := by
  have horder : inPathOrder modules = modules := h.byKey_eq
  rw [build_eq_ok packages h.nodup_keys, horder]

/-- Every module is the one at the node of its path. -/
lemma exists_node_of_build {module : SourceModule} (hbuild : build modules packages = .ok graph)
    (hmodule : module ∈ modules) : ∃ ordered node, graph = ofOrdered ordered packages ∧
      ordered[node]? = some module ∧ graph.indexOf? module.path = some node := by
  obtain ⟨hd, rfl⟩ := build_eq_ok_iff.1 hbuild
  have hperm : inPathOrder modules ~ modules := byKey_perm ModuleOutline.path modules
  have hdistinct : ((inPathOrder modules).map (·.path)).Nodup := (hperm.map _).nodup_iff.2 hd
  have hordered := hperm.mem_iff.2 hmodule
  have hpaths := paths_ofOrdered (inPathOrder modules) packages
  obtain ⟨node, hnode, hpath⟩ := exists_indexOf? (hpaths ▸ mem_map_of_mem hordered)
  refine ⟨_, node, rfl, ?_, hnode⟩
  rw [path?_eq_getElem?, hpaths, getElem?_map] at hpath
  obtain ⟨other, hother, hsame⟩ := Option.map_eq_some_iff.1 hpath
  rw [hother, inj_on_of_nodup_map hdistinct (mem_of_getElem? hother) hordered hsame]

lemma pathsDistinct_ofOrdered (h : (modules.map (·.path)).Nodup) :
    (ofOrdered (inPathOrder modules) packages).PathsDistinct := by
  rw [PathsDistinct, paths_ofOrdered]
  exact ((byKey_perm ModuleOutline.path modules).map _).nodup_iff.2 h

lemma build_eq_of_perm {other : List SourceModule} (hperm : other ~ modules) :
    build other packages = build modules packages := by
  by_cases h : (modules.map (·.path)).Nodup
  · have h' : (other.map (·.path)).Nodup := (hperm.map (·.path)).nodup_iff.2 h
    have horder : inPathOrder other = inPathOrder modules := byKey_eq_of_perm h hperm
    rw [build_eq_ok packages h, build_eq_ok packages h', horder]
  · have h' : ¬ (other.map (·.path)).Nodup := fun h' => h ((hperm.map (·.path)).nodup_iff.1 h')
    rw [build, if_neg h', build, if_neg h]

/-- **Building lays out every import.**  Only a repeated path is refused; whatever else is handed
over gives a graph, and the same one in whatever order it is handed over. -/
theorem build_lays_out_every_import (modules : List SourceModule) (packages : Packages) :
    (RepeatsPath modules → build modules packages = .error {}) ∧
      (¬ RepeatsPath modules → ∃ graph ordered,
        build modules packages = .ok graph ∧ graph.LaidOut packages modules ordered) ∧
      ∀ other, other ~ modules → build other packages = build modules packages := by
  refine ⟨fun hrepeats => ?_, fun hdistinct => ?_, fun other hperm => build_eq_of_perm hperm⟩
  · rw [build, if_neg (repeatsPath_iff.1 hrepeats)]
  · have h : (modules.map (·.path)).Nodup := not_not.1 (mt repeatsPath_iff.2 hdistinct)
    refine ⟨_, inPathOrder modules, build_eq_ok packages h, ?_⟩
    exact laidOut_ofOrdered (byKey_perm ModuleOutline.path modules) (ascending_byKey h)

/-- A package whose parts import each other, a script that imports a package, a location outside the
repository and nothing at all, and a file of no known language. -/
def mixedModules : List SourceModule :=
  [⟨"web/main.js", .javaScript, "javascript", [], [],
      [⟨"express", [], ⟨1, 1⟩, false⟩, ⟨"../../up", [], ⟨2, 2⟩, false⟩, ⟨"", [], ⟨3, 3⟩, false⟩],
      [], [], false⟩,
    ⟨"pkg/b.py", .python, "python", [], [],
      [⟨".", ["a"], ⟨1, 1⟩, false⟩, ⟨"os", [], ⟨2, 2⟩, false⟩], [], [], false⟩,
    ⟨"pkg/a.py", .python, "python", [], [], [⟨"pkg.b", ["run"], ⟨4, 5⟩, false⟩], [], [], true⟩,
    ⟨"notes.txt", .unrecognised, "", [], [], [⟨"pkg.a", [], ⟨1, 1⟩, false⟩], [], [], false⟩]

theorem mixedModules_laid_out :
    (RepeatsPath (mixedModules ++ mixedModules) ∧
      build (mixedModules ++ mixedModules) ⟨[], ["express"]⟩ = .error {}) ∧
    (¬ RepeatsPath mixedModules ∧ ∃ graph ordered,
      build mixedModules ⟨[], ["express"]⟩ = .ok graph ∧
        graph.LaidOut ⟨[], ["express"]⟩ mixedModules ordered) ∧
    (mixedModules.reverse ~ mixedModules ∧
      build mixedModules.reverse ⟨[], ["express"]⟩ = build mixedModules ⟨[], ["express"]⟩) := by
  have hrepeats : RepeatsPath (mixedModules ++ mixedModules) := repeatsPath_iff.2 (by decide)
  have hdistinct : ¬ RepeatsPath mixedModules := fun h => repeatsPath_iff.1 h (by decide)
  exact ⟨⟨hrepeats, (build_lays_out_every_import _ _).1 hrepeats⟩,
    ⟨hdistinct, (build_lays_out_every_import _ _).2.1 hdistinct⟩,
    reverse_perm _, (build_lays_out_every_import _ _).2.2 _ (reverse_perm _)⟩

end DependencyGraph

end RepoAtlas
