import RepoAtlas.Proofs.Graph.Construction

/-!
# Modules that import themselves

An absolute import passes over the importing module wherever it looks for a file: below every root,
and next to a script.  What is left is an import of no name at all.  It means the package that it
stands in, and at the top of the repository that may be the importing module (`NamesItself`).

So **a self-loop comes from a relative import or from an import without a name**, if the module is
one of Python, and the cycles of one node in the report are these self-loops.
-/

namespace RepoAtlas

open List

namespace Resolution.Python

variable {known : Known} {path importer target dotted : String} {roots symbols : List String}

/-! ## Resolution -/

lemma lookup?_ne_self : lookup? known (some path) roots dotted ≠ some path := by
  intro h
  have hother := find?_some h
  simp at hother

lemma lookup?_eq_none_iff : lookup? known (some importer) roots dotted = none ↔
    ∀ root ∈ roots, ∀ file ∈ candidates root dotted, file ∈ known.paths → file = importer := by
  simp only [lookup?, find?_eq_none, mem_flatMap, forall_exists_index, and_imp]
  constructor
  · intro h root hroot file hfile hknown
    simpa [hknown] using h file root hroot hfile
  · intro h file root hroot hfile hpassed
    rw [Bool.and_eq_true] at hpassed
    have hself := h root hroot file hfile (mem_of_elem_eq_true hpassed.1)
    simp [hself] at hpassed

/-- The importing module is found only as the package that an import without a name means. -/
lemma moduleOrSubmodule?_eq_self_iff {module : String} :
    moduleOrSubmodule? known (some path) roots module symbols = some path ↔
      module = "" ∧ lookupPackage? known roots = some path ∧
        ∀ dotted ∈ submodules module symbols, lookup? known (some path) roots dotted = none := by
  unfold moduleOrSubmodule?
  rw [← findSome?_eq_none_iff]
  split
  · rename_i found hsubmodule
    rw [hsubmodule]
    refine iff_of_false ?_ (by simp)
    rintro ⟨⟩
    obtain ⟨dotted, -, hdotted⟩ := exists_of_findSome?_eq_some hsubmodule
    exact lookup?_ne_self hdotted
  · rename_i hnone
    split_ifs with hmodule
    · rw [hnone]
      simp [hmodule]
    · exact iff_of_false lookup?_ne_self fun h => hmodule h.1

/-- The package of the first root that is one. -/
def IsTopPackage (known : Known) (path : String) : Prop :=
  path ∈ known.paths ∧
    (path = "__init__.py" ∨ path = "src/__init__.py" ∧ "__init__.py" ∉ known.paths)

instance (known : Known) (path : String) : Decidable (IsTopPackage known path) :=
  inferInstanceAs (Decidable (_ ∧ _))

lemma lookupPackage?_roots_iff : lookupPackage? known Python.roots = some path ↔
    IsTopPackage known path := by
  have hfiles : Python.roots.map (below · "__init__.py") = ["__init__.py", "src/__init__.py"] := by
    decide +kernel
  rw [lookupPackage?, hfiles, IsTopPackage]
  by_cases htop : "__init__.py" ∈ known.paths
  · rw [find?_cons_of_pos (by simpa using htop)]
    constructor
    · rintro ⟨⟩
      exact ⟨htop, Or.inl rfl⟩
    · rintro ⟨-, rfl | ⟨-, hnone⟩⟩
      · rfl
      · exact absurd htop hnone
  · rw [find?_cons_of_neg (by simpa using htop), find?_singleton]
    split_ifs with hsource
    · constructor
      · rintro ⟨⟩
        exact ⟨by simpa using hsource, Or.inr ⟨rfl, htop⟩⟩
      · rintro ⟨hknown, rfl | ⟨rfl, -⟩⟩
        · exact absurd hknown htop
        · rfl
    · refine iff_of_false (by simp) ?_
      rintro ⟨hknown, rfl | ⟨rfl, -⟩⟩
      · exact htop hknown
      · exact hsource (by simpa using hknown)

/-- Nothing is looked for next to a script that lies in a package. -/
lemma besideScript?_ne_self : besideScript? known importer target symbols ≠ some importer := by
  simp only [besideScript?]
  split_ifs with hplace
  · simp
  · intro h
    obtain ⟨-, hpackage, -⟩ := moduleOrSubmodule?_eq_self_iff.1 h
    rw [Bool.or_eq_true, not_or] at hplace
    have hbelow : below (Path.parent importer) "__init__.py" =
        Path.join (Path.parent importer) "__init__.py" := by
      refine if_neg fun htop => hplace.1 ?_
      rw [htop]
      decide
    have hknown := mem_of_lookupPackage? hpackage
    rw [lookupPackage?, map_singleton, hbelow] at hpackage
    rw [mem_singleton.1 (mem_of_find?_eq_some hpackage)] at hknown
    exact hplace.2 (by simpa using hknown)

/-- An import of no name in the package at the top, of which no imported name is another module. -/
def NamesItself (known : Known) (importer target : String) (symbols : List String) : Prop :=
  target = "" ∧ IsTopPackage known importer ∧
    ∀ symbol ∈ symbols, symbol ≠ "*" → ∀ root ∈ Python.roots, ∀ file ∈ candidates root symbol,
      file ∈ known.paths → file = importer

instance (known : Known) (importer target : String) (symbols : List String) :
    Decidable (NamesItself known importer target symbols) :=
  inferInstanceAs (Decidable (_ ∧ _ ∧ _))

lemma namesItself_iff : NamesItself known importer target symbols ↔
    moduleOrSubmodule? known (some importer) Python.roots target symbols = some importer := by
  rw [moduleOrSubmodule?_eq_self_iff, NamesItself, lookupPackage?_roots_iff]
  refine and_congr_right fun htarget => and_congr_right fun _ => ?_
  simp [submodules, htarget, lookup?_eq_none_iff]

/-- **Absolute imports of the importing module** have no name. -/
lemma resolve_eq_self_iff (habsolute : Text.startsWith "." target = false) :
    resolve known importer target symbols = .internal importer ↔
      NamesItself known importer target symbols := by
  rw [namesItself_iff, resolve, if_neg (by simp [habsolute]), resolveAbsolute]
  split
  · rename_i path hfound
    simp [hfound]
  · rename_i hnone
    rw [hnone]
    refine iff_of_false ?_ (by simp)
    split
    · simp
    · exact fun h => besideScript?_ne_self (ofPath?_eq_internal h)

end Resolution.Python

/-! ## Graphs -/

namespace DependencyGraph

variable {modules : List SourceModule} {packages : Packages} {graph : DependencyGraph String}

/-- A node imports itself by a self-loop. -/
lemma imports_self_iff (hconsistent : ∀ edge ∈ graph.edges, edge.IsConsistent) {i : ℕ} :
    graph.Imports i i ↔ ∃ edge ∈ graph.edges, edge.source = i ∧ edge.target = some i := by
  rw [Imports, internalPairs, mem_filterMap]
  refine exists_congr fun edge => and_congr_right fun hedge => ?_
  rw [internalPair?_eq_some_iff, and_iff_right_iff_imp]
  rintro ⟨-, htarget⟩
  exact (hconsistent edge hedge).internal.2 (by simp [htarget])

/-- The cycles of one node are the self-loops. -/
lemma mem_walks_iff_loop (hin : graph.EdgesInside) (hd : graph.PathsDistinct) {i : ℕ} :
    [i, i] ∈ graph.findCycles.walks ↔ graph.Imports i i := by
  constructor
  · intro hwalk
    exact isChain_pair.1 (isClosed_of_mem_walks hin hwalk).along
  · exact loop_mem_walks hin hd

/-- **A self-loop is an import of the module itself.** -/
lemma exists_resolveImport_of_loop {edge : GraphEdge String}
    (hedge : edge ∈ (ofOrdered modules packages).edges) (hloop : edge.target = some edge.source) :
    ∃ module ∈ modules, ∃ spec ∈ module.imports,
      (ofOrdered modules packages).path? edge.source = some module.path ∧
      edge.specifier = spec.target ∧ edge.line = spec.span.startLine ∧
      resolveImport (modules.map (·.path)) packages module spec = .internal module.path := by
  obtain ⟨source, module, spec, hsource, hspec, rfl⟩ := exists_edgeOf hedge
  have hpath : (modules.map (·.path))[source]? = some module.path := by
    rw [getElem?_map, hsource]
    rfl
  refine ⟨module, mem_of_getElem? hsource, spec, hspec, ?_, rfl, rfl, ?_⟩
  · rw [path?_eq_getElem?, paths_ofOrdered]
    exact hpath
  · obtain ⟨path, target, hresolution, htarget, hwritten⟩ | ⟨package, -, hwritten⟩ |
      ⟨-, hwritten⟩ := edgeOf_cases (modules.map (·.path)) packages source module spec
    · rw [hwritten] at hloop
      obtain rfl : target = source := Option.some.inj hloop
      rw [hresolution, Option.some.inj (htarget.symm.trans hpath)]
    all_goals
      rw [hwritten] at hloop
      cases hloop

/-- **An absolute import leads back only without a name.**  In the graph, each cycle of one node is
a self-loop, and a self-loop of a module of Python is a relative import or one without a name at the
top of the repository. -/
theorem self_imports_have_no_name (known : Resolution.Python.Known) (importer target : String)
    (symbols : List String) (modules : List SourceModule) (packages : Packages) :
    (Text.startsWith "." target = false →
      (Resolution.Python.resolve known importer target symbols = .internal importer ↔
        Resolution.Python.NamesItself known importer target symbols)) ∧
    ∀ graph, build modules packages = .ok graph →
      (∀ i, [i, i] ∈ graph.findCycles.walks ↔
        ∃ edge ∈ graph.edges, edge.source = i ∧ edge.target = some i) ∧
      ∀ edge ∈ graph.edges, edge.target = some edge.source →
        ∃ module ∈ modules, ∃ spec ∈ module.imports,
          graph.path? edge.source = some module.path ∧ edge.specifier = spec.target ∧
          edge.line = spec.span.startLine ∧
          (module.language = .python → Text.startsWith "." spec.target = true ∨
            Resolution.Python.NamesItself ⟨graph.nodes.map (·.path), packages.python⟩ module.path
              spec.target spec.symbols) := by
  constructor
  · exact Resolution.Python.resolve_eq_self_iff
  · intro graph hbuild
    obtain ⟨hd, rfl⟩ := build_eq_ok_iff.1 hbuild
    have hlaid : (ofOrdered (inPathOrder modules) packages).LaidOut packages modules
        (inPathOrder modules) :=
      laidOut_ofOrdered (byKey_perm ModuleOutline.path modules) (ascending_byKey hd)
    constructor
    · intro i
      rw [mem_walks_iff_loop (edgesInside_ofOrdered _ packages) (pathsDistinct_ofOrdered hd)]
      exact imports_self_iff hlaid.consistent
    · intro edge hedge hloop
      obtain ⟨module, hmodule, spec, hspec, hpath, hspecifier, hline, hresolution⟩ :=
        exists_resolveImport_of_loop hedge hloop
      refine ⟨module, hlaid.perm.mem_iff.1 hmodule, spec, hspec, hpath, hspecifier, hline,
        fun hpython => ?_⟩
      rw [paths_ofOrdered]
      cases habsolute : Text.startsWith "." spec.target with
      | true => exact Or.inl rfl
      | false =>
          simp only [resolveImport, hpython] at hresolution
          exact Or.inr ((Resolution.Python.resolve_eq_self_iff habsolute).1 hresolution)

/-- A package at the top of the repository, with an import that is left without a name. -/
def namelessImport : SourceModule :=
  ⟨"__init__.py", .python, "python", [], [], [⟨"", [], ⟨1, 1⟩, false⟩], [], [], false⟩

theorem namelessImport_is_a_cycle :
    Text.startsWith "." "" = false ∧
    Resolution.Python.resolve ⟨["__init__.py"], []⟩ "__init__.py" "" [] =
      .internal "__init__.py" ∧
    ∃ graph, build [namelessImport] ⟨[], []⟩ = .ok graph ∧ [0, 0] ∈ graph.findCycles.walks ∧
      ∃ module ∈ [namelessImport], ∃ spec ∈ module.imports, Text.startsWith "." spec.target = true ∨
        Resolution.Python.NamesItself ⟨graph.nodes.map (·.path), []⟩ module.path spec.target
          spec.symbols := by
  have habsolute : Text.startsWith "." "" = false := by decide
  obtain ⟨hresolve, hgraph⟩ := self_imports_have_no_name ⟨["__init__.py"], []⟩ "__init__.py" "" []
    [namelessImport] ⟨[], []⟩
  have hbuild : build [namelessImport] ⟨[], []⟩ = .ok (ofOrdered [namelessImport] ⟨[], []⟩) :=
    build_eq_ok_iff.2 ⟨by decide, by rw [inPathOrder, mergeSort_singleton]⟩
  have hedges : (ofOrdered [namelessImport] ⟨[], []⟩).edges =
      [⟨0, .internal, "", 1, some 0, none⟩] := by decide +kernel
  obtain ⟨hwalks, hloops⟩ := hgraph _ hbuild
  refine ⟨habsolute, (hresolve habsolute).2 (by decide +kernel), _, hbuild, ?_, ?_⟩
  · exact (hwalks 0).2 ⟨_, hedges ▸ mem_singleton_self _, rfl, rfl⟩
  · obtain ⟨module, hmodule, spec, hspec, -, -, -, hnamed⟩ :=
      hloops ⟨0, .internal, "", 1, some 0, none⟩ (hedges ▸ mem_singleton_self _) rfl
    refine ⟨module, hmodule, spec, hspec, hnamed ?_⟩
    rw [mem_singleton.1 hmodule]
    rfl

/-- **An import without a name is absolute, and leads back.** -/
theorem absolute_import_leads_back :
    ¬ ∀ (known : Resolution.Python.Known) (importer target : String) (symbols : List String),
      Text.startsWith "." target = false →
        Resolution.Python.resolve known importer target symbols ≠ .internal importer := by
  intro h
  exact h ⟨["__init__.py"], []⟩ "__init__.py" "" [] (by decide) (by decide +kernel)

end DependencyGraph

end RepoAtlas
