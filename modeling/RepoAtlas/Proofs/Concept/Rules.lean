import RepoAtlas.Concept.Catalogue
import RepoAtlas.Proofs.Data.Entries
import RepoAtlas.Proofs.Data.Except
import Mathlib.Tactic.SplitIfs

/-!
# What rules promise

The library's own rules report sightings.  Such a rule always finishes, and it collects evidence by
inserting, so that no key of the evidence occurs twice.  A rule that someone adds may fail, but its
evidence is a table as well: `Rule.EvidenceDistinct` is that promise.

`Rule.forall_mem_discover` carries a promise to the rules that are chosen, and the lemmas on
`Concept.extract` carry it on to the concepts of a run.
-/

namespace RepoAtlas

open List

namespace Rule

/-! ## Promises -/

def EvidenceDistinct (rule : Rule) : Prop :=
  ∀ here, ∀ finding ∈ (rule.emit here).findings, Entries.KeysDistinct finding.concept.evidence

lemma evidenceDistinct_ofSightings (name : String) (kind : ConceptKind) (label : String)
    (sightings : Surroundings → List Sighting) :
    (ofSightings name kind label sightings).EvidenceDistinct := by
  intro here finding hfinding
  obtain ⟨sighting, -, rfl⟩ := mem_map.1 hfinding
  exact Entries.keysDistinct_ofPairs _

/-- The rule always finishes, and all it emits are facts. -/
def Finishes (rule : Rule) : Prop := ∀ here, ∃ concepts, rule.concepts here = .ok concepts

lemma finishes_ofSightings (name : String) (kind : ConceptKind) (label : String)
    (sightings : Surroundings → List Sighting) :
    (ofSightings name kind label sightings).Finishes := by
  intro here
  refine ⟨(sightings here).map fun sighting => sighting.toConcept kind label name, ?_⟩
  simp [concepts, ofSightings]

/-- A rule that goes through some items emits what it sees in each. -/
lemma mem_emit_ofSightings {α : Type} {name label : String} {kind : ConceptKind}
    {here : Surroundings} {finding : Finding} (items : Surroundings → List α)
    (see : Surroundings → α → Option Sighting) :
    finding ∈ ((ofSightings name kind label fun here =>
        (items here).filterMap (see here)).emit here).findings ↔
      ∃ item ∈ items here, ∃ sighting, see here item = some sighting ∧
        finding = ⟨sighting.toConcept kind label name, true⟩ := by
  simp only [ofSightings, mem_map, mem_filterMap]
  constructor
  · rintro ⟨sighting, ⟨item, hitem, hsighting⟩, rfl⟩
    exact ⟨item, hitem, sighting, hsighting, rfl⟩
  · rintro ⟨item, hitem, sighting, hsighting, rfl⟩
    exact ⟨sighting, ⟨item, hitem, hsighting⟩, rfl⟩

/-- The concepts of a rule are what it has emitted, and all of that are facts. -/
lemma mem_findings_of_concepts {rule : Rule} {here : Surroundings} {own : List (Concept String)}
    {concept : Concept String} (h : rule.concepts here = .ok own) (hconcept : concept ∈ own) :
    ⟨concept, true⟩ ∈ (rule.emit here).findings := by
  simp only [concepts] at h
  split_ifs at h with hfacts
  split at h
  · cases h
  · cases h
    obtain ⟨finding, hfinding, rfl⟩ := mem_map.1 hconcept
    have hfact := all_eq_true.1 hfacts finding hfinding
    rwa [← hfact]

/-- **Every rule of the library reports sightings.** -/
lemma forall_mem_builtIn {p : Rule → Prop}
    (h : ∀ name kind label sightings, p (ofSightings name kind label sightings)) :
    ∀ rule ∈ builtIn, p rule := by
  simp only [builtIn, DesignRules.all, ArchitectureRules.all, FrameworkRules.all, cons_append,
    nil_append, forall_mem_cons, h, true_and, not_mem_nil, IsEmpty.forall_iff, implies_true]

/-- The library's own rules are told apart by their names. -/
lemma eq_of_mem_builtIn {rule other : Rule} (hrule : rule ∈ builtIn) (hother : other ∈ builtIn)
    (hname : rule.name = other.name) : rule = other :=
  inj_on_of_nodup_map (by decide : (builtIn.map (·.name)).Nodup) hrule hother hname

/-! ## The rules that are chosen -/

section Discover

variable {p : Rule → Prop} {chosen chosen' : Chosen}

lemma Chosen.forall_register (h : ∀ rule ∈ chosen.rules, p rule) {name : String}
    {made : Except DiscoveryError Rule} (hmade : ∀ rule, made = .ok rule → p rule)
    (hok : chosen.register name made = .ok chosen') : ∀ other ∈ chosen'.rules, p other := by
  simp only [register] at hok
  split_ifs at hok
  · cases hok
    exact h
  · cases hok
    exact h
  · obtain ⟨rule, hrule, hok⟩ := bind_eq_ok.1 hok
    cases hok
    intro other hother
    rcases mem_append.1 hother with hother | hother
    · exact h other hother
    · exact mem_singleton.1 hother ▸ hmade rule hrule

lemma Chosen.forall_addPlugin (h : ∀ rule ∈ chosen.rules, p rule) {plugin : Plugin}
    (hplugin : ∀ rule, plugin.offer = .rule rule → p rule)
    (hok : chosen.addPlugin plugin = .ok chosen') : ∀ other ∈ chosen'.rules, p other := by
  have hmade : ∀ rule, plugin.made = .ok rule → p rule := by
    intro rule hrule
    refine hplugin rule ?_
    unfold Plugin.made at hrule
    split at hrule <;> cases hrule
    assumption
  unfold Chosen.addPlugin at hok
  split at hok
  · cases hok
  · exact Chosen.forall_register h hmade hok

/-- **The rules that are chosen are the library's own or those of plugins**, so they have whatever
both have. -/
lemma forall_mem_discover {plugins : List Plugin} {enabled : List String} {rules : List Rule}
    (hown : ∀ rule ∈ builtIn, p rule)
    (hplugins : ∀ plugin ∈ plugins, ∀ rule, plugin.offer = .rule rule → p rule)
    (h : discover plugins enabled = .ok rules) : ∀ rule ∈ rules, p rule := by
  obtain ⟨own, hbuiltIn, h⟩ := bind_eq_ok.1 h
  obtain ⟨chosen, hfold, h⟩ := bind_eq_ok.1 h
  have hstart : ∀ rule ∈ own.rules, p rule := by
    refine foldlM_preserves (p := fun chosen : Chosen => ∀ rule ∈ chosen.rules, p rule)
      (fun before after rule hrule hbefore hstep => ?_) (by simp) hbuiltIn
    refine Chosen.forall_register hbefore (fun other hother => ?_) hstep
    cases hother
    exact hown rule hrule
  have hchosen : ∀ rule ∈ chosen.rules, p rule := by
    refine foldlM_preserves (p := fun chosen : Chosen => ∀ rule ∈ chosen.rules, p rule)
      (fun before after plugin hplugin hbefore hstep => ?_) hstart hfold
    have hmem : plugin ∈ plugins := (mergeSort_perm plugins _).mem_iff.1 hplugin
    exact Chosen.forall_addPlugin hbefore (hplugins plugin hmem) hstep
  simp only at h
  split_ifs at h
  cases h
  exact hchosen

end Discover

end Rule

/-! ## Extraction -/

namespace Concept

variable {rules : List Rule} {here : Surroundings}

/-- What is extracted was reported by a rule. -/
lemma exists_concepts_of_mem_extract {concepts : List (Concept String)} {concept : Concept String}
    (h : extract rules here = .ok concepts) (hconcept : concept ∈ concepts) :
    ∃ rule ∈ rules, ∃ own, rule.concepts here = .ok own ∧ concept ∈ own := by
  obtain ⟨found, hfound, h⟩ := bind_eq_ok.1 h
  cases h
  obtain ⟨own, hown, hconcept⟩ :=
    mem_flatten.1 ((mergeSort_perm found.flatten _).mem_iff.1 hconcept)
  obtain ⟨rule, hrule, hown⟩ := exists_of_mem_mapM hfound own hown
  exact ⟨rule, hrule, own, hown, hconcept⟩

/-- **The evidence of extracted concepts is that of the rules' findings.** -/
lemma keysDistinct_extract {concepts : List (Concept String)}
    (hrules : ∀ rule ∈ rules, rule.EvidenceDistinct) (h : extract rules here = .ok concepts) :
    ∀ concept ∈ concepts, Entries.KeysDistinct concept.evidence := by
  intro concept hconcept
  obtain ⟨rule, hrule, own, hown, hconcept⟩ := exists_concepts_of_mem_extract h hconcept
  exact hrules rule hrule here _ (Rule.mem_findings_of_concepts hown hconcept)

lemma exists_extract (h : ∀ rule ∈ rules, ∃ concepts, rule.concepts here = .ok concepts) :
    ∃ concepts, extract rules here = .ok concepts := by
  obtain ⟨found, hfound⟩ := exists_mapM_eq_ok h
  refine ⟨found.flatten.mergeSort precedes, ?_⟩
  rw [extract, hfound]
  rfl

end Concept

end RepoAtlas
