import RepoAtlas.Proofs.Concept.Grounding

/-!
# What the library's rules report

A rule may go wrong without failing: it may write a detail over a condition, call a detail by the
name of another part of the sighting, or ask for the lines of routes where there are none.
`Sighting.IsSound` excludes all of this.  There is one lemma for each of the thirteen rules, and
`Rule.reportsSound_of_mem_builtIn` puts them together.

The evidence of a sound sighting is what was found, condition by condition and detail by detail
(`IsSound.evidence_eq`).  Extraction neither changes nor invents concepts, so those of a run are all
of this kind (`Concept.isSoundFor_of_mem_extract`).
-/

namespace RepoAtlas

open List

namespace Sighting

/-- The names by which a rule hands over the other parts of a sighting. -/
def reserved : List String := ["self", "file", "span", "conditions"]

/-- Every condition and every detail has a name of its own, and all but architectural patterns are
found at some lines. -/
structure IsSound (sighting : Sighting) (kind : ConceptKind) : Prop where
  judged : sighting.conditions ≠ []
  distinct : (sighting.conditions.map (·.1) ++ sighting.details.map (·.1)).Nodup
  apart : ∀ name ∈ sighting.details.map (·.1), name ∉ reserved
  placed : kind ≠ .architecturalPattern → sighting.span.isSome

variable {sighting : Sighting} {kind : ConceptKind}

/-- Only the names have to be looked at. -/
lemma IsSound.of_names (conditions details : List String)
    (hconditions : sighting.conditions.map (·.1) = conditions)
    (hdetails : sighting.details.map (·.1) = details)
    (hplaced : kind ≠ .architecturalPattern → sighting.span.isSome)
    (h : conditions ≠ [] ∧ (conditions ++ details).Nodup ∧ ∀ name ∈ details, name ∉ reserved) :
    sighting.IsSound kind := by
  subst hconditions hdetails
  exact ⟨fun hnone => h.1 (by rw [hnone]; rfl), h.2.1, h.2.2, hplaced⟩

/-- **Nothing is lost on the way into the evidence.** -/
lemma IsSound.evidence_eq (h : sighting.IsSound kind) : sighting.evidence =
    sighting.conditions.map (fun (name, holds) => (name, .bool holds)) ++ sighting.details := by
  refine Entries.ofPairs_eq_self ?_
  rw [Entries.KeysDistinct, map_append, map_map]
  exact h.distinct

end Sighting

/-! ## Design patterns -/

namespace DesignRules

variable {here : Surroundings} {sighting : Sighting}

lemma isSound_of_mem_singletons (h : sighting ∈ singletons here) :
    sighting.IsSound .designPattern := by
  obtain ⟨⟨module, c⟩, -, h⟩ := mem_filterMap.1 h
  obtain ⟨-, h⟩ := Option.ite_none_right_eq_some.1 h
  cases h
  exact .of_names ["private_constructor", "static_accessor", "stored_instance"] ["class"] rfl rfl
    (fun _ => rfl) (by decide)

lemma isSound_of_mem_observers (h : sighting ∈ observers here) :
    sighting.IsSound .designPattern := by
  obtain ⟨⟨module, c⟩, -, h⟩ := mem_flatMap.1 h
  simp only at h
  split_ifs at h
  · obtain ⟨method, -, rfl⟩ := mem_map.1 h
    exact .of_names ["subscribe_method", "notify_method", "unsubscribe_method", "listener_store"]
      ["class", "method"] rfl rfl (fun _ => rfl) (by decide)
  · cases h

/-- A function has no class to name. -/
lemma isSound_of_mem_factories (h : sighting ∈ factories here) :
    sighting.IsSound .designPattern := by
  obtain ⟨module, -, h⟩ := mem_flatMap.1 h
  obtain ⟨candidate, -, h⟩ := mem_filterMap.1 h
  obtain ⟨-, h⟩ := Option.ite_none_right_eq_some.1 h
  cases h
  by_cases howner : candidate.owner = ""
  · refine .of_names ["factory_name", "instantiates", "multiple_products", "standalone"]
      ["function", "products"] rfl ?_ (fun _ => rfl) (by decide)
    simp only [if_pos howner]
    rfl
  · refine .of_names ["factory_name", "instantiates", "multiple_products", "standalone"]
      ["function", "products", "class"] rfl ?_ (fun _ => rfl) (by decide)
    simp only [if_neg howner]
    rfl

lemma isSound_of_mem_builders (h : sighting ∈ builders here) :
    sighting.IsSound .designPattern := by
  obtain ⟨⟨module, c⟩, -, h⟩ := mem_filterMap.1 h
  obtain ⟨-, h⟩ := Option.ite_none_right_eq_some.1 h
  cases h
  exact .of_names ["builder_name", "build_method", "fluent_setters", "accumulates_state"]
    ["class", "setters"] rfl rfl (fun _ => rfl) (by decide)

lemma isSound_of_mem_strategies (h : sighting ∈ strategies here) :
    sighting.IsSound .designPattern := by
  obtain ⟨⟨module, c⟩, -, h⟩ := mem_filterMap.1 h
  obtain ⟨-, h⟩ := Option.ite_none_left_eq_some.1 h
  obtain ⟨shared, -, rfl⟩ := Option.map_eq_some_iff.1 h
  exact .of_names ["multiple_implementations", "shared_interface_method", "abstract_base"]
    ["base", "implementations", "method"] rfl rfl (fun _ => rfl) (by decide)

end DesignRules

/-! ## Architectural patterns -/

namespace ArchitectureRules

variable {here : Surroundings} {sighting : Sighting}

lemma isSound_of_mem_layered (h : sighting ∈ layered here) :
    sighting.IsSound .architecturalPattern := by
  obtain ⟨directory, -, h⟩ := mem_filterMap.1 h
  obtain ⟨-, h⟩ := Option.ite_none_left_eq_some.1 h
  cases h
  exact .of_names
    ["presentation_layer", "service_layer", "data_layer", "downward_dependencies"]
    ["layers", "upward_edges"] rfl rfl (fun hkind => absurd rfl hkind) (by decide)

lemma isSound_of_mem_mvc (h : sighting ∈ mvc here) : sighting.IsSound .architecturalPattern := by
  obtain ⟨directory, -, h⟩ := mem_filterMap.1 h
  simp only [mvcSighting?] at h
  split at h
  · cases h
  · obtain ⟨-, h⟩ := Option.ite_none_left_eq_some.1 h
    cases h
    exact .of_names ["models_dir", "views_dir", "controllers_dir", "controllers_import_models"] []
      rfl rfl (fun hkind => absurd rfl hkind) (by decide)

lemma isSound_of_mem_hubs (h : sighting ∈ hubs here) : sighting.IsSound .architecturalPattern := by
  obtain ⟨module, -, h⟩ := mem_filterMap.1 h
  obtain ⟨-, h⟩ := Option.ite_none_left_eq_some.1 h
  cases h
  exact .of_names ["high_fan_in", "fan_in_dominant", "exports_many"] ["fan_in", "fan_out", "depth"]
    rfl rfl (fun hkind => absurd rfl hkind) (by decide)

lemma isSound_of_mem_facades (h : sighting ∈ facades here) :
    sighting.IsSound .architecturalPattern := by
  obtain ⟨module, -, h⟩ := mem_filterMap.1 h
  obtain ⟨-, h⟩ := Option.ite_none_left_eq_some.1 h
  cases h
  exact .of_names ["reexports", "index_filename", "no_own_definitions", "imported_from_outside"]
    ["forwarded"] rfl rfl (fun hkind => absurd rfl hkind) (by decide)

lemma isSound_of_mem_monorepos (h : sighting ∈ monorepos here) :
    sighting.IsSound .architecturalPattern := by
  simp only [monorepos] at h
  split_ifs at h
  · cases h
  · obtain rfl := mem_singleton.1 h
    exact .of_names ["workspace_dirs", "multiple_manifests", "cross_project_dependencies"]
      ["projects"] rfl rfl (fun hkind => absurd rfl hkind) (by decide)

end ArchitectureRules

/-! ## Framework patterns -/

namespace FrameworkRules

variable {here : Surroundings} {sighting : Sighting} {module : SourceModule}

lemma isSound_of_mem_routing (h : sighting ∈ routing here) :
    sighting.IsSound .frameworkPattern := by
  have hplaced : sighting.span.isSome := by
    obtain ⟨_, -, -, _, -, span, -, hspan⟩ := isOfRoutes_of_mem_routing h
    exact Option.isSome_of_eq_some hspan
  obtain ⟨module, -, h⟩ := mem_flatMap.1 h
  obtain ⟨framework, -, rfl⟩ := mem_map.1 h
  exact .of_names
    ["route_registrations", "framework_declared", "framework_imported", "named_handlers"]
    ["framework", "routes", "methods"] rfl rfl (fun _ => hplaced) (by decide)

lemma isSound_of_mem_componentsOf (h : sighting ∈ componentsOf module) :
    sighting.IsSound .frameworkPattern := by
  rcases mem_append.1 ((mergeSort_perm _ _).mem_iff.1 h) with h | h
  · obtain ⟨f, -, h⟩ := mem_filterMap.1 h
    obtain ⟨-, h⟩ := Option.ite_none_right_eq_some.1 h
    cases h
    exact .of_names ["pascal_case_name", "jsx_file", "react_imported", "exported"]
      ["component", "style"] rfl rfl (fun _ => rfl) (by decide)
  · obtain ⟨c, -, h⟩ := mem_filterMap.1 h
    obtain ⟨-, h⟩ := Option.ite_none_right_eq_some.1 h
    cases h
    exact .of_names ["extends_component", "render_method", "react_imported", "exported"]
      ["component", "style"] rfl rfl (fun _ => rfl) (by decide)

lemma isSound_of_mem_components (h : sighting ∈ components here) :
    sighting.IsSound .frameworkPattern := by
  obtain ⟨module, -, h⟩ := mem_flatMap.1 h
  exact isSound_of_mem_componentsOf h

lemma isSound_of_mem_models (h : sighting ∈ models here) :
    sighting.IsSound .frameworkPattern := by
  obtain ⟨⟨module, c⟩, -, h⟩ := mem_filterMap.1 h
  obtain ⟨marker, -, rfl⟩ := Option.map_eq_some_iff.1 h
  exact .of_names ["model_marker", "has_fields", "framework_declared", "data_dominant"]
    ["class", "marker", "fields"] rfl rfl (fun _ => rfl) (by decide)

end FrameworkRules

/-! ## The rules -/

namespace Rule

/-- The rule finishes, and what it emits are the concepts of sound sightings. -/
def ReportsSound (rule : Rule) : Prop :=
  ∀ here, ∃ sightings : List Sighting, (∀ sighting ∈ sightings, sighting.IsSound rule.kind) ∧
    rule.concepts here =
      .ok (sightings.map fun sighting => sighting.toConcept rule.kind rule.label rule.name)

lemma reportsSound_ofSightings (name : String) {kind : ConceptKind} (label : String)
    {sightings : Surroundings → List Sighting}
    (h : ∀ {here sighting}, sighting ∈ sightings here → sighting.IsSound kind) :
    (ofSightings name kind label sightings).ReportsSound := by
  intro here
  refine ⟨sightings here, fun sighting hsighting => h hsighting, ?_⟩
  simp [concepts, ofSightings]

/-- **The library's own rules report soundly.** -/
lemma reportsSound_of_mem_builtIn : ∀ rule ∈ builtIn, rule.ReportsSound := by
  simp only [builtIn, DesignRules.all, ArchitectureRules.all, FrameworkRules.all, cons_append,
    nil_append, forall_mem_cons, not_mem_nil, IsEmpty.forall_iff, implies_true, and_true]
  exact ⟨reportsSound_ofSightings _ _ DesignRules.isSound_of_mem_singletons,
    reportsSound_ofSightings _ _ DesignRules.isSound_of_mem_observers,
    reportsSound_ofSightings _ _ DesignRules.isSound_of_mem_factories,
    reportsSound_ofSightings _ _ DesignRules.isSound_of_mem_builders,
    reportsSound_ofSightings _ _ DesignRules.isSound_of_mem_strategies,
    reportsSound_ofSightings _ _ ArchitectureRules.isSound_of_mem_layered,
    reportsSound_ofSightings _ _ ArchitectureRules.isSound_of_mem_mvc,
    reportsSound_ofSightings _ _ ArchitectureRules.isSound_of_mem_hubs,
    reportsSound_ofSightings _ _ ArchitectureRules.isSound_of_mem_facades,
    reportsSound_ofSightings _ _ ArchitectureRules.isSound_of_mem_monorepos,
    reportsSound_ofSightings _ _ FrameworkRules.isSound_of_mem_routing,
    reportsSound_ofSightings _ _ FrameworkRules.isSound_of_mem_components,
    reportsSound_ofSightings _ _ FrameworkRules.isSound_of_mem_models⟩

lemma ReportsSound.finishes {rule : Rule} (h : rule.ReportsSound) : rule.Finishes := by
  intro here
  obtain ⟨sightings, -, hconcepts⟩ := h here
  exact ⟨_, hconcepts⟩

end Rule

namespace Concept

variable {rules : List Rule} {here : Surroundings} {concepts : List (Concept String)}

/-- The concept is one of a sound sighting of a rule, and its evidence is all that was found. -/
def IsSoundFor (rules : List Rule) (concept : Concept String) : Prop :=
  ∃ rule ∈ rules, ∃ sighting : Sighting, sighting.IsSound rule.kind ∧
    concept = sighting.toConcept rule.kind rule.label rule.name ∧
    concept.evidence =
      sighting.conditions.map (fun (name, holds) => (name, .bool holds)) ++ sighting.details

/-- **Extraction adds nothing to what rules report.** -/
lemma isSoundFor_of_mem_extract (hrules : ∀ rule ∈ rules, rule.ReportsSound)
    (h : extract rules here = .ok concepts) : ∀ concept ∈ concepts, concept.IsSoundFor rules := by
  intro concept hconcept
  obtain ⟨rule, hrule, own, hown, hconcept⟩ := exists_concepts_of_mem_extract h hconcept
  obtain ⟨sightings, hsound, hconcepts⟩ := hrules rule hrule here
  obtain rfl := Except.ok.inj (hown.symm.trans hconcepts)
  obtain ⟨sighting, hsighting, rfl⟩ := mem_map.1 hconcept
  have hsighting := hsound sighting hsighting
  exact ⟨rule, hrule, sighting, hsighting, rfl, hsighting.evidence_eq⟩

end Concept

end RepoAtlas
