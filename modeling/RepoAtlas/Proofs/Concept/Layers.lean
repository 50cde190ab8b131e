import RepoAtlas.Proofs.Concept.Directories
import RepoAtlas.Proofs.Concept.Neighbours
import RepoAtlas.Proofs.Concept.Sightings

/-!
# Which way the imports between layers go

A directory with layers says of itself whether its dependencies are downward: whether there are
imports from a layer to a deeper one and none the other way.

A layer may have several directories, since several names mean it.  **The rule looks at the first of
them only, by name** (`mem_layersBelow`).  Between these directories it misses nothing: a path lies
in at most one of them, and whether there are imports is what the graph says.  But imports from or
into another directory of a layer are not seen, and what is said of the layers does not hold for it
(`layers_are_first_directories`).  If every layer has one directory, then it does.
-/

namespace RepoAtlas

open List

namespace ArchitectureRules

open Surroundings

variable {here : Surroundings} {directory name other path : String} {layer upper lower : Layer}

/-! ## The directories of a layer -/

/-- In a directory there is another one with modules, named for a layer. -/
structure HoldsLayer (here : Surroundings) (directory : String) (layer : Layer)
    (name : String) : Prop where
  segment : Path.IsSegment name
  named : Layer.ofDirectory? name = some layer
  inhabited : ∃ module ∈ here.modules, LiesIn directory name module.path

instance : Decidable (HoldsLayer here directory layer name) :=
  decidable_of_iff (Path.IsSegment name ∧ Layer.ofDirectory? name = some layer ∧
    ∃ module ∈ here.modules, LiesIn directory name module.path)
    ⟨fun h => ⟨h.1, h.2.1, h.2.2⟩, fun h => ⟨h.segment, h.named, h.inhabited⟩⟩

/-- It is the first one of its layer. -/
structure LeadsLayer (here : Surroundings) (directory : String) (layer : Layer)
    (name : String) : Prop where
  holds : HoldsLayer here directory layer name
  first : ∀ other, HoldsLayer here directory layer other → name ≤ other

lemma HoldsLayer.layer_eq (h : HoldsLayer here directory upper name)
    (h' : HoldsLayer here directory lower name) : upper = lower :=
  Option.some.inj (h.named.symm.trans h'.named)

/-- Names that all modules are under are the only ones to look at. -/
lemma HoldsLayer.name_mem {names : List String} (h : HoldsLayer here directory layer name)
    (hnames : ∀ module ∈ here.modules, ∃ known ∈ names,
      '/' ∉ known.toList ∧ LiesIn directory known module.path) : name ∈ names := by
  obtain ⟨hname, -, module, hmodule, hlies⟩ := h
  obtain ⟨known, hknown, hslash, hlies'⟩ := hnames module hmodule
  rwa [hlies.name_eq hlies' hname.2 hslash]

/-- The only directory of a layer is the first one. -/
lemma HoldsLayer.leads (h : HoldsLayer here directory layer name)
    (hsingle : ∀ {layer name other}, HoldsLayer here directory layer name →
      HoldsLayer here directory layer other → name = other) :
    LeadsLayer here directory layer name :=
  ⟨h, fun _ hother => (hsingle h hother).le⟩

/-- The top directory is not one of a layer. -/
lemma pathStart_append_ne_top (directory : String) (h : Layer.ofDirectory? name = some layer) :
    pathStart directory ++ name ≠ top := by
  intro htop
  unfold pathStart at htop
  split_ifs at htop
  · rw [String.empty_append] at htop
    rw [htop] at h
    cases layer <;> exact absurd h (by decide +kernel)
  · have hslash : '/' ∈ (directory ++ "/" ++ name).toList := by simp
    rw [htop] at hslash
    exact absurd hslash (by decide)

lemma holdsLayer_iff : HoldsLayer here directory layer name ↔
    Layer.ofDirectory? name = some layer ∧
      (name, pathStart directory ++ name) ∈ here.orderedChildren directory := by
  rw [mem_orderedChildren, childName?_eq_some_iff]
  constructor
  · rintro ⟨hname, hlayer, hmodule⟩
    have htop := pathStart_append_ne_top directory hlayer
    exact ⟨hlayer, (child_mem_directories_iff hname.1 htop).2 hmodule, htop, rfl, hname⟩
  · rintro ⟨hlayer, hdirectory, htop, -, hname⟩
    exact ⟨hname, hlayer, (child_mem_directories_iff hname.1 htop).1 hdirectory⟩

lemma keysDistinct_layersBelow (here : Surroundings) (directory : String) :
    Entries.KeysDistinct (layersBelow here directory) := by
  have hnone : Entries.KeysDistinct ([] : List (Layer × String)) := nodup_nil
  exact hnone.addNew _

lemma lookup_layersBelow (here : Surroundings) (directory : String) (layer : Layer) :
    (layersBelow here directory).lookup layer =
      ((here.orderedChildren directory).find? fun child =>
        Layer.ofDirectory? child.1 == some layer).map (·.2) := by
  rw [layersBelow, Entries.lookup_addNew, nil_append]
  exact Entries.lookup_filterMap _ _ _ _

/-- **The layers below a directory are the first directories of each.** -/
lemma mem_layersBelow : (layer, path) ∈ layersBelow here directory ↔
    ∃ name, LeadsLayer here directory layer name ∧ path = pathStart directory ++ name := by
  have hfirst := (ascending_orderedChildren here directory).exists_first_iff
    (p := fun child => Layer.ofDirectory? child.1 = some layer ∧ child.2 = path)
    (q := fun child => Layer.ofDirectory? child.1 = some layer)
  rw [← (keysDistinct_layersBelow here directory).lookup_eq_some_iff, lookup_layersBelow,
    Option.map_eq_some_iff]
  simp only [find?_eq_some_iff_append]
  constructor
  · rintro ⟨child, ⟨hlayer, before, after, hsplit, hbefore⟩, hpath⟩
    obtain ⟨⟨name, _⟩, hmem, ⟨hlayer, rfl⟩, hleast⟩ := hfirst.1 ⟨before, child, after, hsplit,
      ⟨eq_of_beq hlayer, hpath⟩, fun earlier hearlier => by simpa using hbefore earlier hearlier⟩
    obtain rfl := path_eq_of_mem_orderedChildren hmem
    refine ⟨name, ⟨holdsLayer_iff.2 ⟨hlayer, hmem⟩, fun other hother => ?_⟩, rfl⟩
    obtain ⟨hlayer, hother⟩ := holdsLayer_iff.1 hother
    exact hleast _ hother hlayer
  · rintro ⟨name, ⟨hholds, hleast⟩, rfl⟩
    obtain ⟨hlayer, hmem⟩ := holdsLayer_iff.1 hholds
    have hothers : ∀ other ∈ here.orderedChildren directory,
        Layer.ofDirectory? other.1 = some layer → name ≤ other.1 := by
      rintro ⟨other, _⟩ hother hlayer
      obtain rfl := path_eq_of_mem_orderedChildren hother
      exact hleast other (holdsLayer_iff.2 ⟨hlayer, hother⟩)
    obtain ⟨before, child, after, hsplit, ⟨hlayer, hpath⟩, hbefore⟩ :=
      hfirst.2 ⟨_, hmem, ⟨hlayer, rfl⟩, hothers⟩
    exact ⟨child, ⟨beq_iff_eq.2 hlayer, before, after, hsplit, by simpa using hbefore⟩, hpath⟩

/-- A layer with a directory has a first one. -/
lemma exists_leadsLayer_iff : (∃ name, LeadsLayer here directory layer name) ↔
    ∃ name, HoldsLayer here directory layer name := by
  constructor
  · rintro ⟨name, hleads⟩
    exact ⟨name, hleads.holds⟩
  · rintro ⟨name, hholds⟩
    obtain ⟨hlayer, hmem⟩ := holdsLayer_iff.1 hholds
    have hexists : ∃ child ∈ here.orderedChildren directory,
        (Layer.ofDirectory? child.1 == some layer) = true := ⟨_, hmem, beq_iff_eq.2 hlayer⟩
    obtain ⟨child, hchild⟩ := Option.isSome_iff_exists.1 (find?_isSome.2 hexists)
    have hlookup : (layersBelow here directory).lookup layer = some child.2 := by
      rw [lookup_layersBelow, hchild, Option.map_some]
    have hentry := (keysDistinct_layersBelow here directory).lookup_eq_some_iff.1 hlookup
    obtain ⟨first, hfirst, -⟩ := mem_layersBelow.1 hentry
    exact ⟨first, hfirst⟩

/-- **There are several layers** if two directories are named for different ones. -/
lemma two_le_length_layersBelow_iff : 2 ≤ (layersBelow here directory).length ↔
    ∃ upper lower name other, upper ≠ lower ∧ HoldsLayer here directory upper name ∧
      HoldsLayer here directory lower other := by
  have hkey : ∀ layer, layer ∈ (layersBelow here directory).map (·.1) ↔
      ∃ name, HoldsLayer here directory layer name := by
    intro layer
    rw [← exists_leadsLayer_iff, mem_map]
    constructor
    · rintro ⟨⟨_, path⟩, hmem, rfl⟩
      obtain ⟨name, hleads, -⟩ := mem_layersBelow.1 hmem
      exact ⟨name, hleads⟩
    · rintro ⟨name, hleads⟩
      exact ⟨_, mem_layersBelow.2 ⟨name, hleads, rfl⟩, rfl⟩
  have hlength : (layersBelow here directory).length =
      ((layersBelow here directory).map (·.1)).toFinset.card := by
    rw [toFinset_card_of_nodup (keysDistinct_layersBelow here directory), length_map]
  rw [hlength, Nat.succ_le_iff, Finset.one_lt_card_iff]
  simp only [mem_toFinset, hkey]
  constructor
  · rintro ⟨upper, lower, ⟨name, hname⟩, ⟨other, hother⟩, hne⟩
    exact ⟨upper, lower, name, other, hne, hname, hother⟩
  · rintro ⟨upper, lower, name, other, hne, hname, hother⟩
    exact ⟨upper, lower, ⟨name, hname⟩, ⟨other, hother⟩, hne⟩

/-- **The layer of a path** is that of the first directory it lies in, if there is one. -/
lemma layerOf?_eq_some_iff : layerOf? (layersBelow here directory) path = some layer ↔
    ∃ name, LeadsLayer here directory layer name ∧ LiesIn directory name path := by
  have hfind : layerOf? (layersBelow here directory) path =
      ((layersBelow here directory).find? fun entry =>
        Text.startsWith (entry.2 ++ "/") path).map (·.1) := rfl
  have hfound : ∀ entry ∈ layersBelow here directory,
      Text.startsWith (entry.2 ++ "/") path = true →
        ∃ name, LeadsLayer here directory entry.1 name ∧ LiesIn directory name path := by
    intro entry hentry hlies
    obtain ⟨name, hleads, hpath⟩ := mem_layersBelow.1 hentry
    rw [hpath] at hlies
    exact ⟨name, hleads, hlies⟩
  rw [hfind, Option.map_eq_some_iff]
  constructor
  · rintro ⟨entry, hentry, rfl⟩
    exact hfound entry (mem_of_find?_eq_some hentry) (find?_some hentry :)
  · rintro ⟨name, hleads, hlies⟩
    have hmem : (layer, pathStart directory ++ name) ∈ layersBelow here directory :=
      mem_layersBelow.2 ⟨name, hleads, rfl⟩
    have hexists : ∃ entry ∈ layersBelow here directory,
        Text.startsWith (entry.2 ++ "/") path = true := ⟨_, hmem, hlies⟩
    obtain ⟨entry, hentry⟩ := Option.isSome_iff_exists.1 (find?_isSome.2 hexists)
    obtain ⟨other, hother, hlies'⟩ :=
      hfound entry (mem_of_find?_eq_some hentry) (find?_some hentry :)
    obtain rfl := hlies.name_eq hlies' hleads.holds.segment.2 hother.holds.segment.2
    exact ⟨entry, hentry, hother.holds.layer_eq hleads.holds⟩

/-! ## Imports between layers -/

/-- Some module in one directory imports one in another. -/
def DependsOn (here : Surroundings) (directory name other : String) : Prop :=
  ∃ source target, here.graph.Links source target ∧ LiesIn directory name source ∧
    LiesIn directory other target

lemma importsInto_iff : importsInto here.internalPairs (pathStart directory ++ name)
    (pathStart directory ++ other) = true ↔ DependsOn here directory name other := by
  simp only [importsInto, any_eq_true, Bool.and_eq_true, Prod.exists, mem_internalPairs]
  rfl

instance : Decidable (DependsOn here directory name other) :=
  decidable_of_iff _ importsInto_iff

/-- Between the directories of some kind, no import leads from a layer to one nearer to the
caller. -/
def PointsDown (here : Surroundings) (directory : String) (kind : Layer → String → Prop) : Prop :=
  ∀ upper lower name other, kind upper name → kind lower other → upper.rank < lower.rank →
    ¬ DependsOn here directory other name

/-- Some import between the directories of some kind leads to a deeper layer. -/
def ReachesDown (here : Surroundings) (directory : String) (kind : Layer → String → Prop) : Prop :=
  ∃ upper lower name other, kind upper name ∧ kind lower other ∧ upper.rank < lower.rank ∧
    DependsOn here directory name other

lemma mem_crossings : (upper, lower) ∈ crossings (layersBelow here directory) here.internalPairs ↔
    upper ≠ lower ∧ ∃ name other, LeadsLayer here directory upper name ∧
      LeadsLayer here directory lower other ∧ DependsOn here directory name other := by
  simp only [crossings, mem_filter, mem_filterMap, bne_iff_ne, Prod.exists, mem_internalPairs,
    Option.bind_eq_bind, Option.bind_eq_some_iff, Option.pure_def, Option.some.injEq,
    layerOf?_eq_some_iff]
  constructor
  · rintro ⟨⟨source, target, hlinks, _, ⟨name, hname, hsource⟩, _, ⟨other, hother, htarget⟩,
      hlayers⟩, hne⟩
    cases hlayers
    exact ⟨hne, name, other, hname, hother, source, target, hlinks, hsource, htarget⟩
  · rintro ⟨hne, name, other, hname, hother, source, target, hlinks, hsource, htarget⟩
    exact ⟨⟨source, target, hlinks, _, ⟨name, hname, hsource⟩, _, ⟨other, hother, htarget⟩, rfl⟩,
      hne⟩

/-- Of two layers, one is nearer to the caller. -/
lemma rank_lt_or_lt (h : upper ≠ lower) : upper.rank < lower.rank ∨ lower.rank < upper.rank := by
  cases upper <;> cases lower <;> simp_all [Layer.rank]

lemma any_isDownward_iff :
    (crossings (layersBelow here directory) here.internalPairs).any isDownward = true ↔
      ReachesDown here directory (LeadsLayer here directory) := by
  rw [any_eq_true, Prod.exists]
  refine exists_congr fun upper => exists_congr fun lower => ?_
  rw [mem_crossings, isDownward, decide_eq_true_iff]
  constructor
  · rintro ⟨⟨-, name, other, hname, hother, hdepends⟩, hlt⟩
    exact ⟨name, other, hname, hother, hlt, hdepends⟩
  · rintro ⟨name, other, hname, hother, hlt, hdepends⟩
    refine ⟨⟨?_, name, other, hname, hother, hdepends⟩, hlt⟩
    rintro rfl
    exact Nat.lt_irrefl _ hlt

lemma countP_isDownward_eq_zero_iff :
    (crossings (layersBelow here directory) here.internalPairs).countP (!isDownward ·) = 0 ↔
      PointsDown here directory (LeadsLayer here directory) := by
  rw [countP_eq_zero, Prod.forall]
  constructor
  · intro h upper lower name other hname hother hlt hdepends
    refine h lower upper (mem_crossings.2 ⟨?_, other, name, hother, hname, hdepends⟩) ?_
    · rintro rfl
      exact Nat.lt_irrefl _ hlt
    · simpa [isDownward] using hlt.le
  · intro h a b hcrossing hup
    obtain ⟨hne, name, other, hname, hother, hdepends⟩ := mem_crossings.1 hcrossing
    rcases rank_lt_or_lt hne with hlt | hlt
    · simp [isDownward, hlt] at hup
    · exact h b a other name hother hname hlt hdepends

/-! ## What is said of layers -/

def layeredRule : Rule :=
  .ofSightings "layered" .architecturalPattern "Layered Architecture" layered

lemma layeredRule_mem_builtIn : layeredRule ∈ Rule.builtIn := by
  simp [layeredRule, Rule.builtIn, all]

/-- The concept says that dependencies are downward. -/
def SaysDownward (concept : Concept String) : Prop :=
  concept.evidence.lookup "downward_dependencies" = some (.bool true)

lemma mem_emit_layeredRule {finding : Finding} : finding ∈ (layeredRule.emit here).findings ↔
    ∃ directory ∈ here.directories, ∃ sighting, layeredSighting? here directory = some sighting ∧
      finding = ⟨sighting.toConcept .architecturalPattern "Layered Architecture" "layered", true⟩ :=
  Rule.mem_emit_ofSightings (·.directories) layeredSighting?

/-- **What the rule says of the dependencies is true of the first directories.** -/
lemma saysDownward_iff {finding : Finding} (h : finding ∈ (layeredRule.emit here).findings) :
    SaysDownward finding.concept ↔
      ReachesDown here finding.concept.file (LeadsLayer here finding.concept.file) ∧
        PointsDown here finding.concept.file (LeadsLayer here finding.concept.file) := by
  obtain ⟨directory, hdirectory, sighting, hsighting, rfl⟩ := mem_emit_layeredRule.1 h
  have hsound := isSound_of_mem_layered (mem_filterMap.2 ⟨directory, hdirectory, hsighting⟩)
  obtain ⟨-, hsighting⟩ := Option.ite_none_left_eq_some.1 hsighting
  rw [SaysDownward, Sighting.toConcept, hsound.evidence_eq]
  cases hsighting
  rw [← any_isDownward_iff, ← countP_isDownward_eq_zero_iff, ← beq_iff_eq (α := ℕ),
    ← Bool.and_eq_true]
  constructor
  · intro hstated
    exact Value.bool.inj (Option.some.inj hstated)
  · intro hdownward
    exact congrArg (fun holds => some (Value.bool holds)) hdownward

/-- A directory is reported if it has layers. -/
lemma exists_layeredFinding_iff :
    (∃ finding ∈ (layeredRule.emit here).findings, finding.concept.file = directory) ↔
      directory ∈ here.directories ∧ ∃ upper lower name other, upper ≠ lower ∧
        HoldsLayer here directory upper name ∧ HoldsLayer here directory lower other := by
  rw [← two_le_length_layersBelow_iff]
  constructor
  · rintro ⟨finding, hfinding, rfl⟩
    obtain ⟨directory, hdirectory, sighting, hsighting, rfl⟩ := mem_emit_layeredRule.1 hfinding
    obtain ⟨hmany, hsighting⟩ := Option.ite_none_left_eq_some.1 hsighting
    cases hsighting
    exact ⟨hdirectory, Nat.not_lt.1 hmany⟩
  · rintro ⟨hdirectory, hmany⟩
    have hsighting : ∃ sighting, layeredSighting? here directory = some sighting ∧
        sighting.file = directory := ⟨_, if_neg (Nat.not_lt.2 hmany), rfl⟩
    obtain ⟨sighting, hsighting, hfile⟩ := hsighting
    exact ⟨_, mem_emit_layeredRule.2 ⟨directory, hdirectory, sighting, hsighting, rfl⟩, hfile⟩

/-- **What is said of the layers is said of the first directory of each.**  A directory is reported
if it has two layers.  Its dependencies are said to be downward exactly if that is true of the first
directories of its layers: some import leads down and none up.  For the layers as a whole it is true
if each of them has one directory. -/
theorem layers_are_first_directories {rule : Rule} (hrule : rule ∈ Rule.builtIn)
    (hname : rule.name = "layered") (here : Surroundings) :
    let findings := (rule.emit here).findings
    (∀ directory, (∃ finding ∈ findings, finding.concept.file = directory) ↔
      directory ∈ here.directories ∧ ∃ upper lower name other, upper ≠ lower ∧
        HoldsLayer here directory upper name ∧ HoldsLayer here directory lower other) ∧
    ∀ finding ∈ findings,
      let directory := finding.concept.file
      (SaysDownward finding.concept ↔
        ReachesDown here directory (LeadsLayer here directory) ∧
          PointsDown here directory (LeadsLayer here directory)) ∧
      ((∀ {layer name other}, HoldsLayer here directory layer name →
          HoldsLayer here directory layer other → name = other) →
        SaysDownward finding.concept → PointsDown here directory (HoldsLayer here directory)) := by
  obtain rfl : rule = layeredRule := Rule.eq_of_mem_builtIn hrule layeredRule_mem_builtIn hname
  refine ⟨fun directory => exists_layeredFinding_iff, fun finding hfinding => ?_⟩
  have hstated := saysDownward_iff hfinding
  refine ⟨hstated, fun hsingle hdownward => ?_⟩
  intro upper lower name other hname hother hlt
  exact (hstated.1 hdownward).2 upper lower name other (hname.leads hsingle)
    (hother.leads hsingle) hlt

/-- A directory with an interface that imports a service.  What the service imports, and what else
there is, is left open. -/
def office (others : List SourceModule) (own : List String) : List SourceModule :=
  importing "app/api/users.js" ["../services/users"] ::
    (others ++ [importing "app/services/users.js" own])

/-- The office as the rules see it. -/
def officeView (others : List SourceModule) (own : List String) : Surroundings :=
  ⟨office others own, DependencyGraph.ofOrdered (office others own) ⟨[], []⟩, .empty, .empty⟩

lemma ofDirectory?_office : Layer.ofDirectory? "api" = some .presentation ∧
    Layer.ofDirectory? "routes" = some .presentation ∧
    Layer.ofDirectory? "services" = some .service := by
  decide +kernel

lemma holdsLayer_api (others : List SourceModule) (own : List String) :
    HoldsLayer (officeView others own) "app" .presentation "api" where
  segment := by decide
  named := ofDirectory?_office.1
  inhabited := ⟨_, mem_cons_self, by decide +kernel⟩

lemma holdsLayer_services (others : List SourceModule) (own : List String) :
    HoldsLayer (officeView others own) "app" .service "services" where
  segment := by decide
  named := ofDirectory?_office.2.2
  inhabited := ⟨importing "app/services/users.js" own,
    mem_cons_of_mem _ (mem_append_right _ mem_cons_self),
    (by decide +kernel : LiesIn "app" "services" "app/services/users.js")⟩

lemma exists_officeFinding (others : List SourceModule) (own : List String) :
    ∃ finding ∈ (layeredRule.emit (officeView others own)).findings,
      finding.concept.file = "app" := by
  have hdirectory : "app" ∈ (officeView others own).directories :=
    (mem_directories_iff (by decide) (by decide)).2 ⟨_, mem_cons_self, by decide +kernel⟩
  exact exists_layeredFinding_iff.2 ⟨hdirectory, .presentation, .service, "api", "services",
    by decide, holdsLayer_api others own, holdsLayer_services others own⟩

/-- The interface imports the service and is not imported by it. -/
theorem office_points_down :
    ∃ rule ∈ Rule.builtIn, rule.name = "layered" ∧
      ∃ finding ∈ (rule.emit (officeView [] [])).findings, finding.concept.file = "app" ∧
        SaysDownward finding.concept ∧
        PointsDown (officeView [] []) "app" (HoldsLayer (officeView [] []) "app") := by
  obtain ⟨-, hstated⟩ :=
    layers_are_first_directories layeredRule_mem_builtIn rfl (officeView [] [])
  obtain ⟨finding, hfinding, hfile⟩ := exists_officeFinding [] []
  obtain ⟨hiff, hall⟩ := hstated finding hfinding
  rw [hfile] at hiff hall
  have hnames : ∀ module ∈ (officeView [] []).modules, ∃ known ∈ ["api", "services"],
      '/' ∉ known.toList ∧ LiesIn "app" known module.path := by decide +kernel
  have hsingle : ∀ {layer name other}, HoldsLayer (officeView [] []) "app" layer name →
      HoldsLayer (officeView [] []) "app" layer other → name = other := by
    intro layer name other hname hother
    have hsame := hname.named.trans hother.named.symm
    have hknown := hname.name_mem hnames
    have hknown' := hother.name_mem hnames
    simp only [mem_cons, not_mem_nil, or_false] at hknown hknown'
    rcases hknown with rfl | rfl <;> rcases hknown' with rfl | rfl <;>
      simp [ofDirectory?_office] at hsame ⊢
  have hreaches : ReachesDown (officeView [] []) "app" (LeadsLayer (officeView [] []) "app") :=
    ⟨.presentation, .service, "api", "services", (holdsLayer_api [] []).leads hsingle,
      (holdsLayer_services [] []).leads hsingle, by decide, by decide +kernel⟩
  have hdown : PointsDown (officeView [] []) "app" (LeadsLayer (officeView [] []) "app") := by
    intro upper lower name other hname hother hlt hdepends
    have hknown : ∀ name ∈ ["api", "services"], ∀ other ∈ ["api", "services"],
        DependsOn (officeView [] []) "app" other name → other = "api" ∧ name = "services" := by
      decide +kernel
    obtain ⟨rfl, rfl⟩ := hknown name (hname.holds.name_mem hnames) other
      (hother.holds.name_mem hnames) hdepends
    cases hname.holds.layer_eq (holdsLayer_services [] [])
    cases hother.holds.layer_eq (holdsLayer_api [] [])
    exact absurd hlt (by decide)
  have hdownward := hiff.2 ⟨hreaches, hdown⟩
  exact ⟨_, layeredRule_mem_builtIn, rfl, finding, hfinding, hfile, hdownward,
    hall hsingle hdownward⟩

/-- With a second directory of interfaces, which the service imports. -/
def crossedView : Surroundings :=
  officeView [importing "app/routes/users.js" []] ["../routes/users"]

lemma holdsLayer_routes : HoldsLayer crossedView "app" .presentation "routes" where
  segment := by decide
  named := ofDirectory?_office.2.1
  inhabited := by decide +kernel

/-- The dependencies are said to be downward, since the second directory is not the first one of
its layer. -/
lemma saysDownward_crossedView {finding : Finding}
    (h : finding ∈ (layeredRule.emit crossedView).findings) (hfile : finding.concept.file = "app") :
    SaysDownward finding.concept := by
  have hnames : ∀ module ∈ crossedView.modules, ∃ known ∈ ["api", "routes", "services"],
      '/' ∉ known.toList ∧ LiesIn "app" known module.path := by decide +kernel
  have hapi : LeadsLayer crossedView "app" .presentation "api" := by
    refine ⟨holdsLayer_api _ _, fun other hother => ?_⟩
    have hknown := hother.name_mem hnames
    simp only [mem_cons, not_mem_nil, or_false] at hknown
    rcases hknown with rfl | rfl | rfl <;> decide
  have hservices : LeadsLayer crossedView "app" .service "services" := by
    refine ⟨holdsLayer_services _ _, fun other hother => ?_⟩
    have hnamed := hother.named
    have hknown := hother.name_mem hnames
    simp only [mem_cons, not_mem_nil, or_false] at hknown
    rcases hknown with rfl | rfl | rfl
    · simp [ofDirectory?_office] at hnamed
    · simp [ofDirectory?_office] at hnamed
    · exact String.le_refl _
  rw [saysDownward_iff h, hfile]
  constructor
  case left =>
    exact ⟨.presentation, .service, "api", "services", hapi, hservices, by decide,
      by decide +kernel⟩
  case right =>
    intro upper lower name other hname hother hlt hdepends
    have hknown : ∀ name ∈ ["api", "routes", "services"], ∀ other ∈ ["api", "routes", "services"],
        DependsOn crossedView "app" other name →
          other = "api" ∧ name = "services" ∨ name = "routes" := by
      decide +kernel
    rcases hknown name (hname.holds.name_mem hnames) other (hother.holds.name_mem hnames)
      hdepends with ⟨rfl, rfl⟩ | rfl
    · cases hname.holds.layer_eq (holdsLayer_services _ _)
      cases hother.holds.layer_eq (holdsLayer_api _ _)
      exact absurd hlt (by decide)
    · cases hname.holds.layer_eq holdsLayer_routes
      exact absurd (hname.first "api" (holdsLayer_api _ _)) (by decide)

/-- **An import from a service to an interface is not seen** if there is another directory of
interfaces in front of it. -/
theorem import_of_second_directory_is_missed :
    ¬ ∀ rule ∈ Rule.builtIn, rule.name = "layered" →
      ∀ (modules : List SourceModule) (packages : DependencyGraph.Packages)
        (graph : DependencyGraph String) (analysis : GraphAnalysis String)
        (manifest : ManifestInfo String),
        DependencyGraph.build modules packages = .ok graph →
          let here := Surroundings.ofModules modules graph analysis manifest
          ∀ finding ∈ (rule.emit here).findings, SaysDownward finding.concept →
            PointsDown here finding.concept.file (HoldsLayer here finding.concept.file) := by
  intro h
  have hpaths : ["app/api/users.js", "app/routes/users.js", "app/services/users.js"].Pairwise
      (· < ·) := by decide
  have hascending : Ascending ModuleOutline.path crossedView.modules := pairwise_map.1 hpaths
  have hclaimed := h _ layeredRule_mem_builtIn rfl _ _ _ .empty .empty
    (DependencyGraph.build_of_ascending ⟨[], []⟩ hascending)
  rw [ofModules_of_ascending hascending] at hclaimed
  obtain ⟨finding, hfinding, hfile⟩ :=
    exists_officeFinding [importing "app/routes/users.js" []] ["../routes/users"]
  have hdown := hclaimed finding hfinding (saysDownward_crossedView hfinding hfile)
  rw [hfile] at hdown
  exact hdown .presentation .service "routes" "services" holdsLayer_routes
    (holdsLayer_services _ _) (by decide) (by decide +kernel)

end ArchitectureRules

end RepoAtlas
