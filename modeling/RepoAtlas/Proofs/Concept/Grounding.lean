import RepoAtlas.Proofs.Concept.Rules
import RepoAtlas.Proofs.Outline.LineOrder

/-!
# Where concepts stand

A concept names a file and perhaps some lines of it, and a reader goes there.  What the library's
rules report is always found there: **lines are those of a declaration**
(`Sighting.IsOfDeclaration`) or the smallest range around the routes of a framework
(`Sighting.IsOfRoutes`), **and what has no lines is a module or a directory**
(`Sighting.IsOfPlace`).  Each of the thirteen rules is of one of the three kinds, with one lemma
each; `Rule.grounds_of_mem_builtIn` puts them together.

Only one rule names a place without looking it up: a repository of several projects stands in the
top directory.  A repository without modules has no directories, hence no projects, and then two of
the three conditions fail (`ArchitectureRules.modules_ne_nil_of_monorepo`).
-/

namespace RepoAtlas

open List

/-! ## Lines of a module -/

namespace Span

/-- The smallest span that covers all of some spans. -/
structure IsLeastCover (span : Span) (spans : List Span) : Prop where
  covers : ∀ inner ∈ spans, span.Covers inner
  least : ∀ outer : Span, (∀ inner ∈ spans, outer.Covers inner) → outer.Covers span

variable {span inner first second : Span} {more : List Span}

lemma isLeastCover_singleton (span : Span) : span.IsLeastCover [span] where
  covers := by simp [Covers]
  least := fun outer houter => houter span (mem_singleton_self span)

/-- Two spans may be replaced by the smallest one around both. -/
lemma IsLeastCover.of_merged
    (h : span.IsLeastCover
      (⟨min first.startLine second.startLine, max first.endLine second.endLine⟩ :: more)) :
    span.IsLeastCover (first :: second :: more) := by
  have hmerged : ∀ outer : Span,
      outer.Covers ⟨min first.startLine second.startLine, max first.endLine second.endLine⟩ ↔
        outer.Covers first ∧ outer.Covers second := by
    intro outer
    simp only [Covers]
    omega
  constructor
  case covers =>
    intro inner hinner
    have hboth := (hmerged span).1 (h.covers _ mem_cons_self)
    rcases mem_cons.1 hinner with rfl | hinner
    · exact hboth.1
    · rcases mem_cons.1 hinner with rfl | hinner
      · exact hboth.2
      · exact h.covers inner (mem_cons_of_mem _ hinner)
  case least =>
    intro outer houter
    simp only [forall_mem_cons] at houter
    refine h.least outer ?_
    rw [forall_mem_cons, hmerged]
    exact ⟨⟨houter.1, houter.2.1⟩, houter.2.2⟩

end Span

namespace ModuleOutline

/-- The spans of the functions, the classes and the methods of a module. -/
def declaredSpans (module : SourceModule) : List Span :=
  module.functions.map (·.span) ++
    module.classes.flatMap fun c => c.span :: c.methods.map (·.span)

/-- The spans of the routes that a module registers with a framework. -/
def routeSpans (module : SourceModule) (framework : String) : List Span :=
  (module.routes.filter (·.framework == framework)).map (·.span)

variable {module : SourceModule} {c : ClassOutline String Span} {f : CallableOutline String Span}

lemma span_mem_of_mem_functions (h : f ∈ module.functions) : f.span ∈ module.declaredSpans :=
  mem_append.2 (Or.inl (mem_map_of_mem h))

lemma span_mem_of_mem_classes (h : c ∈ module.classes) : c.span ∈ module.declaredSpans :=
  mem_append.2 (Or.inr (mem_flatMap.2 ⟨c, h, mem_cons_self⟩))

lemma span_mem_of_mem_methods (h : c ∈ module.classes) (hf : f ∈ c.methods) :
    f.span ∈ module.declaredSpans :=
  mem_append.2 (Or.inr (mem_flatMap.2 ⟨c, h, mem_cons_of_mem _ (mem_map_of_mem hf)⟩))

/-- The lines that a rule of some name may point at: those of the routes of one framework for the
rule that groups routes, and those of a declaration for all others. -/
def MayShow (module : SourceModule) (rule : String) (span : Span) : Prop :=
  if rule = "http_routing" then
    ∃ framework ∈ module.routes.map (·.framework), span.IsLeastCover (module.routeSpans framework)
  else span ∈ module.declaredSpans

end ModuleOutline

/-! ## Kinds of sightings -/

namespace Sighting

variable (here : Surroundings) (sighting : Sighting)

/-- The sighting is that of a function, a class or a method. -/
def IsOfDeclaration : Prop :=
  ∃ module ∈ here.modules, sighting.file = module.path ∧
    ∃ span ∈ module.declaredSpans, sighting.span = some span

/-- The sighting is that of all routes of a framework in a module. -/
def IsOfRoutes : Prop :=
  ∃ module ∈ here.modules, sighting.file = module.path ∧
    ∃ framework ∈ module.routes.map (·.framework), ∃ span : Span,
      span.IsLeastCover (module.routeSpans framework) ∧ sighting.span = some span

/-- The sighting is that of a module as a whole or of a directory. -/
def IsOfPlace : Prop :=
  sighting.span = none ∧
    (sighting.file ∈ here.modules.map (·.path) ∨ sighting.file ∈ here.directories)

end Sighting

namespace Surroundings

variable {here : Surroundings} {module : SourceModule} {c : ClassOutline String Span}

lemma mem_classes : (module, c) ∈ here.classes ↔ module ∈ here.modules ∧ c ∈ module.classes := by
  simp only [classes, mem_flatMap, mem_map, Prod.mk.injEq]
  constructor
  · rintro ⟨_, hmodule, _, hc, rfl, rfl⟩
    exact ⟨hmodule, hc⟩
  · rintro ⟨hmodule, hc⟩
    exact ⟨module, hmodule, c, hc, rfl, rfl⟩

lemma directories_eq_nil (h : here.modules = []) : here.directories = [] := by
  simp [directories, h, Naming.ascending]

/-- **The top directory is there when there is a module**, since it is above all of them. -/
lemma top_mem_directories : top ∈ here.directories ↔ here.modules ≠ [] := by
  constructor
  · intro htop hnone
    rw [directories_eq_nil hnone] at htop
    exact not_mem_nil htop
  · intro hsome
    obtain ⟨module, hmodule⟩ := exists_mem_of_ne_nil _ hsome
    rw [directories, Naming.mem_ascending]
    exact mem_flatMap.2 ⟨module, hmodule, mem_map.2 ⟨0, by simp, rfl⟩⟩

end Surroundings

/-! ## Design patterns -/

namespace DesignRules

variable {here : Surroundings} {sighting : Sighting}

lemma isOfDeclaration_of_mem_singletons (h : sighting ∈ singletons here) :
    sighting.IsOfDeclaration here := by
  obtain ⟨⟨module, c⟩, hc, h⟩ := mem_filterMap.1 h
  obtain ⟨hmodule, hc⟩ := Surroundings.mem_classes.1 hc
  obtain ⟨-, h⟩ := Option.ite_none_right_eq_some.1 h
  cases h
  exact ⟨module, hmodule, rfl, c.span, ModuleOutline.span_mem_of_mem_classes hc, rfl⟩

lemma isOfDeclaration_of_mem_observers (h : sighting ∈ observers here) :
    sighting.IsOfDeclaration here := by
  obtain ⟨⟨module, c⟩, hc, h⟩ := mem_flatMap.1 h
  obtain ⟨hmodule, hc⟩ := Surroundings.mem_classes.1 hc
  simp only at h
  split_ifs at h
  · obtain ⟨method, hmethod, rfl⟩ := mem_map.1 h
    have hspan := ModuleOutline.span_mem_of_mem_methods hc (mem_of_mem_filter hmethod)
    exact ⟨module, hmodule, rfl, method.span, hspan, rfl⟩
  · cases h

/-- What may be a factory is a function or a method. -/
lemma span_mem_of_mem_factoryCandidates {module : SourceModule} {candidate : FactoryCandidate}
    (h : candidate ∈ factoryCandidates module) :
    candidate.callable.span ∈ module.declaredSpans := by
  rcases mem_append.1 ((mergeSort_perm _ _).mem_iff.1 h) with h | h
  · obtain ⟨f, hf, rfl⟩ := mem_map.1 h
    exact ModuleOutline.span_mem_of_mem_functions hf
  · obtain ⟨c, hc, h⟩ := mem_flatMap.1 h
    obtain ⟨method, hmethod, rfl⟩ := mem_map.1 h
    exact ModuleOutline.span_mem_of_mem_methods hc (mem_of_mem_filter hmethod)

lemma isOfDeclaration_of_mem_factories (h : sighting ∈ factories here) :
    sighting.IsOfDeclaration here := by
  obtain ⟨module, hmodule, h⟩ := mem_flatMap.1 h
  obtain ⟨candidate, hcandidate, h⟩ := mem_filterMap.1 h
  obtain ⟨-, h⟩ := Option.ite_none_right_eq_some.1 h
  cases h
  exact ⟨module, hmodule, rfl, _, span_mem_of_mem_factoryCandidates hcandidate, rfl⟩

lemma isOfDeclaration_of_mem_builders (h : sighting ∈ builders here) :
    sighting.IsOfDeclaration here := by
  obtain ⟨⟨module, c⟩, hc, h⟩ := mem_filterMap.1 h
  obtain ⟨hmodule, hc⟩ := Surroundings.mem_classes.1 hc
  obtain ⟨-, h⟩ := Option.ite_none_right_eq_some.1 h
  cases h
  exact ⟨module, hmodule, rfl, c.span, ModuleOutline.span_mem_of_mem_classes hc, rfl⟩

lemma isOfDeclaration_of_mem_strategies (h : sighting ∈ strategies here) :
    sighting.IsOfDeclaration here := by
  obtain ⟨⟨module, c⟩, hc, h⟩ := mem_filterMap.1 h
  obtain ⟨hmodule, hc⟩ := Surroundings.mem_classes.1 hc
  obtain ⟨-, h⟩ := Option.ite_none_left_eq_some.1 h
  obtain ⟨shared, -, rfl⟩ := Option.map_eq_some_iff.1 h
  exact ⟨module, hmodule, rfl, c.span, ModuleOutline.span_mem_of_mem_classes hc, rfl⟩

end DesignRules

/-! ## Architectural patterns -/

namespace ArchitectureRules

variable {here : Surroundings} {sighting : Sighting}

lemma isOfPlace_of_mem_layered (h : sighting ∈ layered here) : sighting.IsOfPlace here := by
  obtain ⟨directory, hdirectory, h⟩ := mem_filterMap.1 h
  obtain ⟨-, h⟩ := Option.ite_none_left_eq_some.1 h
  cases h
  exact ⟨rfl, Or.inr hdirectory⟩

lemma isOfPlace_of_mem_mvc (h : sighting ∈ mvc here) : sighting.IsOfPlace here := by
  obtain ⟨directory, hdirectory, h⟩ := mem_filterMap.1 h
  simp only [mvcSighting?] at h
  split at h
  · cases h
  · obtain ⟨-, h⟩ := Option.ite_none_left_eq_some.1 h
    cases h
    exact ⟨rfl, Or.inr hdirectory⟩

lemma isOfPlace_of_mem_hubs (h : sighting ∈ hubs here) : sighting.IsOfPlace here := by
  obtain ⟨module, hmodule, h⟩ := mem_filterMap.1 h
  obtain ⟨-, h⟩ := Option.ite_none_left_eq_some.1 h
  cases h
  exact ⟨rfl, Or.inl (mem_map_of_mem hmodule)⟩

lemma isOfPlace_of_mem_facades (h : sighting ∈ facades here) : sighting.IsOfPlace here := by
  obtain ⟨module, hmodule, h⟩ := mem_filterMap.1 h
  obtain ⟨-, h⟩ := Option.ite_none_left_eq_some.1 h
  cases h
  exact ⟨rfl, Or.inl (mem_map_of_mem hmodule)⟩

/-- Projects are directories, so there are none without modules. -/
lemma projects_eq_nil (h : here.modules = []) : projects here = [] := by
  have hchildren : ∀ container, here.childDirectories container = [] := by
    intro container
    rw [Surroundings.childDirectories, Surroundings.directories_eq_nil h]
    rfl
  simp only [projects, hchildren]
  rfl

/-- **Without modules a repository does not count as one of several projects**, whatever manifests
it has: there are no project directories, and nothing can depend on them. -/
lemma modules_ne_nil_of_monorepo (h : 2 ≤ holding (monorepoConditions here)) :
    here.modules ≠ [] := by
  intro hnone
  have hcrosses : crossesProjects [] here.internalPairs = false := by
    simp [crossesProjects, containing?]
  have hconditions : ∃ several, monorepoConditions here =
      [("workspace_dirs", false), ("multiple_manifests", several),
        ("cross_project_dependencies", false)] :=
    ⟨_, by simp only [monorepoConditions, projects_eq_nil hnone, map_nil, hcrosses]; simp; rfl⟩
  obtain ⟨several, hconditions⟩ := hconditions
  rw [hconditions] at h
  cases several <;> exact absurd h (by decide)

lemma isOfPlace_of_mem_monorepos (h : sighting ∈ monorepos here) : sighting.IsOfPlace here := by
  simp only [monorepos] at h
  split_ifs at h with hfew
  · cases h
  · obtain rfl := mem_singleton.1 h
    have hmodules := modules_ne_nil_of_monorepo (Nat.le_of_not_lt hfew)
    exact ⟨rfl, Or.inr (Surroundings.top_mem_directories.2 hmodules)⟩

end ArchitectureRules

/-! ## Framework patterns -/

namespace FrameworkRules

variable {here : Surroundings} {sighting : Sighting} {module : SourceModule}

/-- **Some spans have a smallest cover**, and it is what folding them gives. -/
lemma exists_isLeastCover_coveringSpan {spans : List Span} (h : spans ≠ []) :
    ∃ span : Span, coveringSpan spans = some span ∧ span.IsLeastCover spans := by
  cases spans with
  | nil => exact absurd rfl h
  | cons first more =>
      refine ⟨_, rfl, ?_⟩
      induction more generalizing first with
      | nil => exact Span.isLeastCover_singleton first
      | cons second rest ih => exact (ih _ (cons_ne_nil _ _)).of_merged

/-- There is a route for every framework that is reported. -/
lemma isOfRoutes_of_mem_routing (h : sighting ∈ routing here) : sighting.IsOfRoutes here := by
  obtain ⟨module, hmodule, h⟩ := mem_flatMap.1 h
  obtain ⟨framework, hframework, rfl⟩ := mem_map.1 h
  rw [mem_eraseDups] at hframework
  obtain ⟨route, hroute, rfl⟩ := mem_map.1 hframework
  have hsome : module.routeSpans route.framework ≠ [] :=
    ne_nil_of_mem (mem_map_of_mem (mem_filter.2 ⟨hroute, beq_self_eq_true _⟩))
  obtain ⟨span, hspan, hleast⟩ := exists_isLeastCover_coveringSpan hsome
  exact ⟨module, hmodule, rfl, route.framework, hframework, span, hleast, hspan⟩

lemma isOfDeclaration_of_mem_components (h : sighting ∈ components here) :
    sighting.IsOfDeclaration here := by
  obtain ⟨module, hmodule, h⟩ := mem_flatMap.1 h
  have hmodule := mem_of_mem_filter hmodule
  rcases mem_append.1 ((mergeSort_perm _ _).mem_iff.1 h) with h | h
  · obtain ⟨f, hf, h⟩ := mem_filterMap.1 h
    obtain ⟨-, h⟩ := Option.ite_none_right_eq_some.1 h
    cases h
    exact ⟨module, hmodule, rfl, f.span, ModuleOutline.span_mem_of_mem_functions hf, rfl⟩
  · obtain ⟨c, hc, h⟩ := mem_filterMap.1 h
    obtain ⟨-, h⟩ := Option.ite_none_right_eq_some.1 h
    cases h
    exact ⟨module, hmodule, rfl, c.span, ModuleOutline.span_mem_of_mem_classes hc, rfl⟩

lemma isOfDeclaration_of_mem_models (h : sighting ∈ models here) :
    sighting.IsOfDeclaration here := by
  obtain ⟨⟨module, c⟩, hc, h⟩ := mem_filterMap.1 h
  obtain ⟨hmodule, hc⟩ := Surroundings.mem_classes.1 hc
  obtain ⟨marker, -, rfl⟩ := Option.map_eq_some_iff.1 h
  exact ⟨module, hmodule, rfl, c.span, ModuleOutline.span_mem_of_mem_classes hc, rfl⟩

end FrameworkRules

/-! ## The rules -/

namespace Concept

/-- The concept stands at lines of a module that its rule may point at, or at a module or a
directory as a whole. -/
def IsGrounded (modules : List SourceModule) (directories : List String)
    (concept : Concept String) : Prop :=
  match concept.span with
  | some span =>
    ∃ module ∈ modules, module.path = concept.file ∧ module.MayShow concept.rule span
  | none => (∃ module ∈ modules, module.path = concept.file) ∨ concept.file ∈ directories

end Concept

namespace Rule

/-- Everything that the rule emits is grounded in what it is shown. -/
def Grounds (rule : Rule) : Prop :=
  ∀ here, ∀ finding ∈ (rule.emit here).findings,
    finding.concept.rule = rule.name ∧
      finding.concept.IsGrounded here.modules here.directories

section

variable {name label : String} {kind : ConceptKind} {sightings : Surroundings → List Sighting}

lemma grounds_of_declarations (hname : name ≠ "http_routing")
    (h : ∀ {here sighting}, sighting ∈ sightings here → sighting.IsOfDeclaration here) :
    (ofSightings name kind label sightings).Grounds := by
  intro here finding hfinding
  obtain ⟨sighting, hsighting, rfl⟩ := mem_map.1 hfinding
  obtain ⟨module, hmodule, hfile, span, hspan, hsome⟩ := h hsighting
  refine ⟨rfl, ?_⟩
  simp only [Concept.IsGrounded, Sighting.toConcept, hsome, ModuleOutline.MayShow, if_neg hname]
  exact ⟨module, hmodule, hfile.symm, hspan⟩

lemma grounds_of_routes
    (h : ∀ {here sighting}, sighting ∈ sightings here → sighting.IsOfRoutes here) :
    (ofSightings "http_routing" kind label sightings).Grounds := by
  intro here finding hfinding
  obtain ⟨sighting, hsighting, rfl⟩ := mem_map.1 hfinding
  obtain ⟨module, hmodule, hfile, framework, hframework, span, hleast, hsome⟩ := h hsighting
  refine ⟨rfl, ?_⟩
  simp only [Concept.IsGrounded, Sighting.toConcept, hsome, ModuleOutline.MayShow, if_true]
  exact ⟨module, hmodule, hfile.symm, framework, hframework, hleast⟩

lemma grounds_of_places
    (h : ∀ {here sighting}, sighting ∈ sightings here → sighting.IsOfPlace here) :
    (ofSightings name kind label sightings).Grounds := by
  intro here finding hfinding
  obtain ⟨sighting, hsighting, rfl⟩ := mem_map.1 hfinding
  obtain ⟨hnone, hplace⟩ := h hsighting
  refine ⟨rfl, ?_⟩
  simp only [Concept.IsGrounded, Sighting.toConcept, hnone]
  exact hplace.imp_left mem_map.1

end

/-- **The library's own rules ground what they emit.** -/
lemma grounds_of_mem_builtIn : ∀ rule ∈ builtIn, rule.Grounds := by
  simp only [builtIn, DesignRules.all, ArchitectureRules.all, FrameworkRules.all, cons_append,
    nil_append, forall_mem_cons, not_mem_nil, IsEmpty.forall_iff, implies_true, and_true]
  exact ⟨grounds_of_declarations (by decide) DesignRules.isOfDeclaration_of_mem_singletons,
    grounds_of_declarations (by decide) DesignRules.isOfDeclaration_of_mem_observers,
    grounds_of_declarations (by decide) DesignRules.isOfDeclaration_of_mem_factories,
    grounds_of_declarations (by decide) DesignRules.isOfDeclaration_of_mem_builders,
    grounds_of_declarations (by decide) DesignRules.isOfDeclaration_of_mem_strategies,
    grounds_of_places ArchitectureRules.isOfPlace_of_mem_layered,
    grounds_of_places ArchitectureRules.isOfPlace_of_mem_mvc,
    grounds_of_places ArchitectureRules.isOfPlace_of_mem_hubs,
    grounds_of_places ArchitectureRules.isOfPlace_of_mem_facades,
    grounds_of_places ArchitectureRules.isOfPlace_of_mem_monorepos,
    grounds_of_routes FrameworkRules.isOfRoutes_of_mem_routing,
    grounds_of_declarations (by decide) FrameworkRules.isOfDeclaration_of_mem_components,
    grounds_of_declarations (by decide) FrameworkRules.isOfDeclaration_of_mem_models⟩

end Rule

namespace Surroundings

variable (modules : List SourceModule) (graph : DependencyGraph String)
  (analysis : GraphAnalysis String) (manifest : ManifestInfo String)

lemma mem_modules_ofModules {module : SourceModule} :
    module ∈ (ofModules modules graph analysis manifest).modules ↔ module ∈ modules :=
  (mergeSort_perm modules _).mem_iff

/-- **Every concept of the library's own rules stands somewhere in the repository.**  This needs
nothing of the graph and the manifests, and not even that modules have different paths. -/
theorem emitted_concepts_grounded {rule : Rule} (hrule : rule ∈ Rule.builtIn) :
    let here := ofModules modules graph analysis manifest
    (top ∈ here.directories ↔ modules ≠ []) ∧
      ∀ finding ∈ (rule.emit here).findings,
        finding.concept.rule = rule.name ∧
          finding.concept.IsGrounded modules here.directories := by
  intro here
  have hmodules : ∀ module, module ∈ here.modules ↔ module ∈ modules :=
    fun module => mem_modules_ofModules modules graph analysis manifest
  constructor
  · rw [top_mem_directories, ← not_iff_not, not_not, not_not, eq_nil_iff_forall_not_mem,
      eq_nil_iff_forall_not_mem]
    simp only [hmodules]
  · intro finding hfinding
    obtain ⟨hname, hgrounded⟩ := Rule.grounds_of_mem_builtIn rule hrule here finding hfinding
    simp only [Concept.IsGrounded, hmodules] at hgrounded
    exact ⟨hname, hgrounded⟩

/-- A module with a class that keeps its only instance, and with two routes. -/
def shopModule : SourceModule where
  path := "shop/app.py"
  language := .python
  grammar := "python"
  functions := []
  classes :=
    [{ name := "Shop", superclass := none, span := ⟨1, 6⟩, bases := [], decorators := []
       isExported := true, isAbstract := false
       fields := [⟨"_instance", 2, true, "protected"⟩]
       methods :=
        [⟨"get_instance", ["cls"], ⟨4, 6⟩, none, false, true, true, "public",
          ["classmethod"], []⟩] }]
  imports := []
  exports := []
  routes := [⟨"Flask", "GET", "/a", ⟨9, 12⟩, none⟩, ⟨"Flask", "POST", "/b", ⟨20, 24⟩, none⟩]
  hasMainGuard := false

def shop : Surroundings := ofModules [shopModule] .empty .empty .empty

/-- The class is reported with its own lines, and the two routes with the lines from the first to
the last. -/
theorem shop_concepts_grounded :
    let singleton : Rule :=
      .ofSightings "singleton" .designPattern "Singleton" DesignRules.singletons
    let routing : Rule :=
      .ofSightings "http_routing" .frameworkPattern "HTTP Routing" FrameworkRules.routing
    (singleton.emit shop).findings.map (·.concept.span) = [some ⟨1, 6⟩] ∧
      (routing.emit shop).findings.map (·.concept.span) = [some ⟨9, 24⟩] ∧
      ∀ finding ∈ (singleton.emit shop).findings ++ (routing.emit shop).findings,
        finding.concept.IsGrounded [shopModule] shop.directories := by
  intro singleton routing
  have hsingleton := emitted_concepts_grounded [shopModule] .empty .empty .empty
    (mem_append_left _ (mem_append_left _ mem_cons_self) : singleton ∈ Rule.builtIn)
  have hrouting := emitted_concepts_grounded [shopModule] .empty .empty .empty
    (mem_append_right _ mem_cons_self : routing ∈ Rule.builtIn)
  have hshop : shop = ⟨[shopModule], .empty, .empty, .empty⟩ := by
    rw [shop, ofModules, mergeSort_singleton]
  refine ⟨?_, ?_, fun finding hfinding => ?_⟩
  · rw [hshop]
    decide +kernel
  · rw [hshop]
    decide +kernel
  · rcases mem_append.1 hfinding with hfinding | hfinding
    · exact (hsingleton.2 finding hfinding).2
    · exact (hrouting.2 finding hfinding).2

end Surroundings

end RepoAtlas
