import RepoAtlas.Proofs.Concept.Sightings
import RepoAtlas.Proofs.Entry.Shares

/-!
# What a confidence is made of

The confidence of a concept is the share of the conditions that hold, and a reader has only the
concept.  Its evidence has the conditions in it, but among details, and nothing says which is which.
What tells them apart is that **conditions are truth values and details are not**
(`Sighting.IsScored`): the truth values among the evidence are the conditions, in their order
(`verdicts_toConcept`), and the confidence can be worked out again from them.

A share is divided out before it is rounded, and a quotient of floating-point numbers is not exact.
With at most four conditions that makes no difference (`confidence_eq`).  At least one condition
holds of all that is reported: a rule that does not name such a condition itself asks for two that
hold.
-/

namespace RepoAtlas

open List

/-- The truth value that a value is, if it is one. -/
def Value.verdict? : Value → Option Bool
  | .bool holds => some holds
  | _ => none

namespace Concept

/-- The truth values among the evidence. -/
def verdicts (concept : Concept String) : List Bool :=
  concept.evidence.filterMap fun (_, value) => value.verdict?

/-- How large a share of them is true. -/
def trueShare (concept : Concept String) : ℚ :=
  concept.verdicts.count true / concept.verdicts.length

end Concept

/-! ## Shares of a few conditions -/

/-- **Shares of at most four conditions** are not changed by being rounded twice, and they stay
above zero and at most one. -/
lemma roundTo_ofFraction {part whole : ℕ} (hwhole : whole ≤ 4) (hpart : part ≤ whole)
    (hsome : 0 < part) :
    let rounded := (Binary64.ofFraction false part whole).roundTo 4
    rounded = .ofRat (Scale.roundToFour (mkRat part whole)) ∧
      Binary64.less 0 rounded = true ∧ Binary64.less 1 rounded = false := by
  have hall : ∀ whole ∈ range 5, ∀ part ∈ range 5, part ≤ whole → 0 < part →
      (Binary64.ofFraction false part whole).roundTo 4 =
          .ofRat (Scale.roundToFour (mkRat part whole)) ∧
        Binary64.less 0 ((Binary64.ofFraction false part whole).roundTo 4) = true ∧
        Binary64.less 1 ((Binary64.ofFraction false part whole).roundTo 4) = false := by
    decide +kernel
  exact hall whole (mem_range.2 (by omega)) part (mem_range.2 (by omega)) hpart hsome

namespace Sighting

/-- Some of a few conditions hold, and no detail could be taken for a condition. -/
structure IsScored (sighting : Sighting) : Prop where
  few : sighting.conditions.length ≤ 4
  holds : 0 < holding sighting.conditions
  plain : sighting.details.filterMap (fun (_, value) => value.verdict?) = []

variable {sighting : Sighting} {kind : ConceptKind} {conditions : List (String × Bool)}

lemma holding_pos_of_mem (name : String) (h : (name, true) ∈ conditions) : 0 < holding conditions :=
  countP_pos_iff.2 ⟨_, h, rfl⟩

lemma holding_le_length (conditions : List (String × Bool)) :
    holding conditions ≤ conditions.length :=
  countP_le_length

/-- **The truth values among the evidence are the conditions.** -/
lemma verdicts_toConcept (hsound : sighting.IsSound kind) (hscored : sighting.IsScored)
    (label rule : String) :
    (sighting.toConcept kind label rule).verdicts = sighting.conditions.map (·.2) := by
  rw [Concept.verdicts, toConcept, hsound.evidence_eq, filterMap_append, hscored.plain, append_nil,
    filterMap_map, ← filterMap_eq_map]
  rfl

lemma trueShare_toConcept (hsound : sighting.IsSound kind) (hscored : sighting.IsScored)
    (label rule : String) : (sighting.toConcept kind label rule).trueShare =
      mkRat (holding sighting.conditions) sighting.conditions.length := by
  have hcount : (sighting.conditions.map (·.2)).count true = holding sighting.conditions := by
    rw [count_eq_countP, countP_map, holding]
    exact countP_congr fun condition _ => by simp
  rw [Concept.trueShare, verdicts_toConcept hsound hscored, hcount, length_map, Rat.mkRat_eq_div,
    Int.cast_natCast]

/-- **The confidence is the share of what is true**, rounded to four places. -/
lemma confidence_eq (hsound : sighting.IsSound kind) (hscored : sighting.IsScored)
    (label rule : String) :
    let concept := sighting.toConcept kind label rule
    concept.confidence = .ofRat (Scale.roundToFour concept.trueShare) ∧
      Binary64.less 0 concept.confidence = true ∧ Binary64.less 1 concept.confidence = false := by
  intro concept
  have hconfidence : concept.confidence =
      (Binary64.ofFraction false (holding sighting.conditions) sighting.conditions.length).roundTo
        4 :=
    if_neg (by simpa using hsound.judged)
  have hshare : concept.trueShare =
      mkRat (holding sighting.conditions) sighting.conditions.length :=
    trueShare_toConcept hsound hscored label rule
  rw [hconfidence, hshare]
  exact roundTo_ofFraction hscored.few (holding_le_length _) hscored.holds

end Sighting

/-! ## Design patterns -/

namespace DesignRules

open Sighting

variable {here : Surroundings} {sighting : Sighting}

lemma isScored_of_mem_singletons (h : sighting ∈ singletons here) : sighting.IsScored := by
  obtain ⟨⟨module, c⟩, -, h⟩ := mem_filterMap.1 h
  obtain ⟨hmany, h⟩ := Option.ite_none_right_eq_some.1 h
  cases h
  exact ⟨(by decide : 3 ≤ 4), by simp only; omega, rfl⟩

lemma isScored_of_mem_observers (h : sighting ∈ observers here) : sighting.IsScored := by
  obtain ⟨⟨module, c⟩, -, h⟩ := mem_flatMap.1 h
  simp only at h
  split_ifs at h with hmany
  · obtain ⟨method, -, rfl⟩ := mem_map.1 h
    exact ⟨(by decide : 4 ≤ 4), by simp only; omega, rfl⟩
  · cases h

lemma isScored_of_mem_factories (h : sighting ∈ factories here) : sighting.IsScored := by
  obtain ⟨module, -, h⟩ := mem_flatMap.1 h
  obtain ⟨candidate, -, h⟩ := mem_filterMap.1 h
  obtain ⟨-, h⟩ := Option.ite_none_right_eq_some.1 h
  cases h
  refine ⟨(by decide : 4 ≤ 4), holding_pos_of_mem _ mem_cons_self, ?_⟩
  simp only
  split_ifs <;> rfl

/-- The method that finishes the object is asked for, whatever else is there. -/
lemma isScored_of_mem_builders (h : sighting ∈ builders here) : sighting.IsScored := by
  obtain ⟨⟨module, c⟩, -, h⟩ := mem_filterMap.1 h
  obtain ⟨hfound, h⟩ := Option.ite_none_right_eq_some.1 h
  have hbuilds := (Bool.and_eq_true_iff.1 hfound).1
  cases h
  refine ⟨(by decide : 4 ≤ 4), ?_, rfl⟩
  refine holding_pos_of_mem "build_method" (mem_cons_of_mem _ ?_)
  rw [hbuilds]
  exact mem_cons_self

lemma isScored_of_mem_strategies (h : sighting ∈ strategies here) : sighting.IsScored := by
  obtain ⟨⟨module, c⟩, -, h⟩ := mem_filterMap.1 h
  obtain ⟨-, h⟩ := Option.ite_none_left_eq_some.1 h
  obtain ⟨shared, -, rfl⟩ := Option.map_eq_some_iff.1 h
  exact ⟨(by decide : 3 ≤ 4), holding_pos_of_mem _ mem_cons_self, rfl⟩

end DesignRules

/-! ## Architectural patterns -/

namespace ArchitectureRules

open Sighting

variable {here : Surroundings} {sighting : Sighting}

/-- A layer that is there is one of the three. -/
lemma exists_layer_of_ne_nil {layers : List (Layer × String)} (h : layers ≠ []) :
    (layers.lookup .presentation).isSome ∨ (layers.lookup .service).isSome ∨
      (layers.lookup .data).isSome := by
  obtain ⟨⟨layer, directory⟩, hmem⟩ := exists_mem_of_ne_nil _ h
  have hsome : (layers.lookup layer).isSome :=
    Entries.lookup_isSome_iff_mem.2 (mem_map_of_mem hmem)
  cases layer with
  | presentation => exact Or.inl hsome
  | service => exact Or.inr (Or.inl hsome)
  | data => exact Or.inr (Or.inr hsome)

lemma isScored_of_mem_layered (h : sighting ∈ layered here) : sighting.IsScored := by
  obtain ⟨directory, -, h⟩ := mem_filterMap.1 h
  obtain ⟨hmany, h⟩ := Option.ite_none_left_eq_some.1 h
  have hsome : layersBelow here directory ≠ [] := by
    intro hnil
    rw [hnil] at hmany
    exact hmany (by decide)
  cases h
  refine ⟨(by decide : 4 ≤ 4), ?_, rfl⟩
  rcases exists_layer_of_ne_nil hsome with hlayer | hlayer | hlayer
  · exact holding_pos_of_mem "presentation_layer" (by simp [hlayer])
  · exact holding_pos_of_mem "service_layer" (by simp [hlayer])
  · exact holding_pos_of_mem "data_layer" (by simp [hlayer])

lemma isScored_of_mem_mvc (h : sighting ∈ mvc here) : sighting.IsScored := by
  obtain ⟨directory, -, h⟩ := mem_filterMap.1 h
  simp only [mvcSighting?] at h
  split at h
  · cases h
  · obtain ⟨-, h⟩ := Option.ite_none_left_eq_some.1 h
    cases h
    exact ⟨(by decide : 4 ≤ 4), holding_pos_of_mem "controllers_dir" (by simp), rfl⟩

lemma isScored_of_mem_hubs (h : sighting ∈ hubs here) : sighting.IsScored := by
  obtain ⟨module, -, h⟩ := mem_filterMap.1 h
  obtain ⟨-, h⟩ := Option.ite_none_left_eq_some.1 h
  cases h
  exact ⟨(by decide : 3 ≤ 4), holding_pos_of_mem _ mem_cons_self, rfl⟩

lemma isScored_of_mem_facades (h : sighting ∈ facades here) : sighting.IsScored := by
  obtain ⟨module, -, h⟩ := mem_filterMap.1 h
  obtain ⟨-, h⟩ := Option.ite_none_left_eq_some.1 h
  cases h
  exact ⟨(by decide : 4 ≤ 4), holding_pos_of_mem _ mem_cons_self, rfl⟩

lemma isScored_of_mem_monorepos (h : sighting ∈ monorepos here) : sighting.IsScored := by
  simp only [monorepos] at h
  split_ifs at h with hfew
  · cases h
  · obtain rfl := mem_singleton.1 h
    exact ⟨(by decide : 3 ≤ 4), by simp only; omega, rfl⟩

end ArchitectureRules

/-! ## Framework patterns -/

namespace FrameworkRules

open Sighting

variable {here : Surroundings} {sighting : Sighting}

lemma isScored_of_mem_routing (h : sighting ∈ routing here) : sighting.IsScored := by
  obtain ⟨module, -, h⟩ := mem_flatMap.1 h
  obtain ⟨framework, -, rfl⟩ := mem_map.1 h
  exact ⟨(by decide : 4 ≤ 4), holding_pos_of_mem _ mem_cons_self, rfl⟩

lemma isScored_of_mem_components (h : sighting ∈ components here) : sighting.IsScored := by
  obtain ⟨module, -, h⟩ := mem_flatMap.1 h
  rcases mem_append.1 ((mergeSort_perm _ _).mem_iff.1 h) with h | h
  · obtain ⟨f, -, h⟩ := mem_filterMap.1 h
    obtain ⟨-, h⟩ := Option.ite_none_right_eq_some.1 h
    cases h
    exact ⟨(by decide : 4 ≤ 4), holding_pos_of_mem _ mem_cons_self, rfl⟩
  · obtain ⟨c, -, h⟩ := mem_filterMap.1 h
    obtain ⟨-, h⟩ := Option.ite_none_right_eq_some.1 h
    cases h
    exact ⟨(by decide : 4 ≤ 4), holding_pos_of_mem _ mem_cons_self, rfl⟩

lemma isScored_of_mem_models (h : sighting ∈ models here) : sighting.IsScored := by
  obtain ⟨⟨module, c⟩, -, h⟩ := mem_filterMap.1 h
  obtain ⟨marker, -, rfl⟩ := Option.map_eq_some_iff.1 h
  exact ⟨(by decide : 4 ≤ 4), holding_pos_of_mem _ mem_cons_self, rfl⟩

end FrameworkRules

/-! ## The rules -/

namespace Rule

variable {rule : Rule} {here : Surroundings}

/-- The sighting is one of those that the rule makes its concepts from. -/
def Sights (rule : Rule) (here : Surroundings) (sighting : Sighting) : Prop :=
  ∃ sightings, rule = .ofSightings rule.name rule.kind rule.label sightings ∧
    sighting ∈ sightings here

/-- Every concept of the rule is that of a sound and scored sighting. -/
def ReportsScored (rule : Rule) : Prop :=
  ∀ here, ∀ finding ∈ (rule.emit here).findings, ∃ sighting, rule.Sights here sighting ∧
    finding.concept = sighting.toConcept rule.kind rule.label rule.name ∧
    sighting.IsSound rule.kind ∧ sighting.IsScored

lemma reportsScored_ofSightings {name label : String} {kind : ConceptKind}
    {sightings : Surroundings → List Sighting}
    (hsound : ∀ {here sighting}, sighting ∈ sightings here → sighting.IsSound kind)
    (hscored : ∀ {here sighting}, sighting ∈ sightings here → sighting.IsScored) :
    (ofSightings name kind label sightings).ReportsScored := by
  intro here finding hfinding
  obtain ⟨sighting, hsighting, rfl⟩ := mem_map.1 hfinding
  exact ⟨sighting, ⟨sightings, rfl, hsighting⟩, rfl, hsound hsighting, hscored hsighting⟩

/-- **The library's own rules report what is scored.** -/
lemma reportsScored_of_mem_builtIn : ∀ rule ∈ builtIn, rule.ReportsScored := by
  simp only [builtIn, DesignRules.all, ArchitectureRules.all, FrameworkRules.all, cons_append,
    nil_append, forall_mem_cons, not_mem_nil, IsEmpty.forall_iff, implies_true, and_true]
  refine ⟨?_, ?_, ?_, ?_, ?_, ?_, ?_, ?_, ?_, ?_, ?_, ?_, ?_⟩
  · exact reportsScored_ofSightings DesignRules.isSound_of_mem_singletons
      DesignRules.isScored_of_mem_singletons
  · exact reportsScored_ofSightings DesignRules.isSound_of_mem_observers
      DesignRules.isScored_of_mem_observers
  · exact reportsScored_ofSightings DesignRules.isSound_of_mem_factories
      DesignRules.isScored_of_mem_factories
  · exact reportsScored_ofSightings DesignRules.isSound_of_mem_builders
      DesignRules.isScored_of_mem_builders
  · exact reportsScored_ofSightings DesignRules.isSound_of_mem_strategies
      DesignRules.isScored_of_mem_strategies
  · exact reportsScored_ofSightings ArchitectureRules.isSound_of_mem_layered
      ArchitectureRules.isScored_of_mem_layered
  · exact reportsScored_ofSightings ArchitectureRules.isSound_of_mem_mvc
      ArchitectureRules.isScored_of_mem_mvc
  · exact reportsScored_ofSightings ArchitectureRules.isSound_of_mem_hubs
      ArchitectureRules.isScored_of_mem_hubs
  · exact reportsScored_ofSightings ArchitectureRules.isSound_of_mem_facades
      ArchitectureRules.isScored_of_mem_facades
  · exact reportsScored_ofSightings ArchitectureRules.isSound_of_mem_monorepos
      ArchitectureRules.isScored_of_mem_monorepos
  · exact reportsScored_ofSightings FrameworkRules.isSound_of_mem_routing
      FrameworkRules.isScored_of_mem_routing
  · exact reportsScored_ofSightings FrameworkRules.isSound_of_mem_components
      FrameworkRules.isScored_of_mem_components
  · exact reportsScored_ofSightings FrameworkRules.isSound_of_mem_models
      FrameworkRules.isScored_of_mem_models

/-- **A concept says how its confidence came about.**  The confidence is the share of truth values
among its evidence that are true, to the nearest ten-thousandth; one of them is true, and so the
confidence is above zero and at most one.  The evidence is what was found, condition by condition,
and then the details, none of which has the name of a condition. -/
theorem confidence_is_read_off_the_evidence (hrule : rule ∈ builtIn) (here : Surroundings) :
    ∀ finding ∈ (rule.emit here).findings,
      (∃ rounded, Scale.RoundsToFour finding.concept.trueShare rounded ∧
        finding.concept.confidence = .ofRat rounded) ∧
      true ∈ finding.concept.verdicts ∧
      Binary64.less 0 finding.concept.confidence = true ∧
      Binary64.less 1 finding.concept.confidence = false ∧
      ∃ sighting, rule.Sights here sighting ∧
        finding.concept = sighting.toConcept rule.kind rule.label rule.name ∧
        finding.concept.evidence =
          sighting.conditions.map (fun (name, holds) => (name, .bool holds)) ++
            sighting.details ∧
        ∀ condition ∈ sighting.conditions, condition.1 ∉ sighting.details.map (·.1) := by
  intro finding hfinding
  obtain ⟨sighting, hsights, hconcept, hsound, hscored⟩ :=
    reportsScored_of_mem_builtIn rule hrule here finding hfinding
  obtain ⟨hconfidence, hpositive, hone⟩ :=
    Sighting.confidence_eq hsound hscored rule.label rule.name
  rw [hconcept]
  refine ⟨⟨_, Scale.roundsToFour_roundToFour ?_, hconfidence⟩, ?_, hpositive, hone, sighting,
    hsights, rfl, hsound.evidence_eq, ?_⟩
  · exact div_nonneg (Nat.cast_nonneg _) (Nat.cast_nonneg _)
  · rw [Sighting.verdicts_toConcept hsound hscored]
    obtain ⟨condition, hmem, htrue⟩ := countP_pos_iff.1 hscored.holds
    exact mem_map.2 ⟨condition, hmem, htrue⟩
  · intro condition hcondition hdetail
    exact disjoint_of_nodup_append hsound.distinct (mem_map_of_mem hcondition) hdetail

end Rule

namespace Surroundings

/-- A class that keeps its only instance, but which anyone may construct. -/
theorem shop_confidence_is_two_thirds :
    let singleton : Rule :=
      .ofSightings "singleton" .designPattern "Singleton" DesignRules.singletons
    singleton ∈ Rule.builtIn ∧ ∃ finding ∈ (singleton.emit shop).findings,
      finding.concept.verdicts = [false, true, true] ∧
        Binary64.less 0 finding.concept.confidence = true ∧
        ∃ rounded, Scale.RoundsToFour (2 / 3) rounded ∧
          finding.concept.confidence = .ofRat rounded := by
  intro singleton
  have hrule : singleton ∈ Rule.builtIn := mem_append_left _ (mem_append_left _ mem_cons_self)
  have hshop : shop = ⟨[shopModule], .empty, .empty, .empty⟩ := by
    rw [shop, ofModules, mergeSort_singleton]
  obtain ⟨finding, hfinding, hverdicts⟩ : ∃ finding ∈ (singleton.emit shop).findings,
      finding.concept.verdicts = [false, true, true] := by
    rw [hshop]
    decide +kernel
  obtain ⟨hconfidence, -, hpositive, -⟩ :=
    Rule.confidence_is_read_off_the_evidence hrule shop finding hfinding
  have hshare : finding.concept.trueShare = 2 / 3 := by
    rw [Concept.trueShare, hverdicts]
    norm_num
  rw [hshare] at hconfidence
  exact ⟨hrule, finding, hfinding, hverdicts, hpositive, hconfidence⟩

end Surroundings

end RepoAtlas
