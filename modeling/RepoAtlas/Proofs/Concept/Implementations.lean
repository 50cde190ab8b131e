import RepoAtlas.Proofs.Concept.Sightings
import Mathlib.Algebra.BigOperators.Fin
import Mathlib.Algebra.Order.BigOperators.Group.Finset

/-!
# What counts as an implementation

A strategy is a class with several implementations that share a method.  What the rule counts are
not classes but *mentions*: every base of every class that comes down to the name of the strategy,
once type arguments, call and qualifiers are gone.  `length_implementations` says so as a sum over
class declarations.

A declaration that mentions the strategy twice, as `flat.Shape` and as `solid.Shape`, weighs two in
that sum, and a strategy that extends a class of its own name weighs one although it does not
implement itself.  **These are the only two ways in which mentions and implementations part**
(`sum_mentions_eq_card_iff`): each summand is at least the one that counts implementations, so the
sums agree only if all summands do.  The method, on the other hand, is one that every implementation
defines, however often it is counted.
-/

namespace RepoAtlas

open List

namespace Surroundings

/-- A class declaration, by its place among all of them: classes that look the same are still
different declarations. -/
abbrev Declaration (here : Surroundings) : Type := Fin here.classes.length

namespace Declaration

variable {here : Surroundings}

def module (k : here.Declaration) : SourceModule := here.classes[k].1

def outline (k : here.Declaration) : ClassOutline String Span := here.classes[k].2

/-- How many bases of `i` come down to the name of `k`. -/
def mentions (k i : here.Declaration) : ℕ :=
  i.outline.bases.countP (DesignRules.baseClassName · == k.outline.name)

/-- The other declarations that name `k` among their bases. -/
def implementers (k : here.Declaration) : Finset here.Declaration :=
  Finset.univ.filter fun i =>
    i ≠ k ∧ ∃ base ∈ i.outline.bases, DesignRules.baseClassName base = k.outline.name

/-- The concept reports `k` as a strategy with so many implementations and a shared method. -/
structure IsReportedBy (k : here.Declaration) (concept : Concept String) (count : ℕ)
    (method : String) : Prop where
  file : concept.file = k.module.path
  span : concept.span = some k.outline.span
  base : concept.evidence.lookup "base" = some (.str k.outline.name)
  implementations : concept.evidence.lookup "implementations" = some (.int count)
  method : concept.evidence.lookup "method" = some (.str method)

variable {k i : here.Declaration}

lemma mentions_pos_iff :
    0 < k.mentions i ↔
      ∃ base ∈ i.outline.bases, DesignRules.baseClassName base = k.outline.name := by
  simp [mentions, countP_pos_iff]

lemma mem_implementers : i ∈ k.implementers ↔ i ≠ k ∧ 0 < k.mentions i := by
  simp [implementers, mentions_pos_iff]

lemma card_implementers (k : here.Declaration) :
    k.implementers.card = ∑ i, if i ≠ k ∧ 0 < k.mentions i then 1 else 0 := by
  rw [← Finset.card_filter]
  congr 1
  ext i
  simp [mem_implementers]

/-- **Mentions are implementations** as long as the class does not mention itself and no other one
mentions it twice. -/
lemma sum_mentions_eq_card_iff (k : here.Declaration) :
    ∑ i, k.mentions i = k.implementers.card ↔
      k.mentions k = 0 ∧ ∀ i, i ≠ k → k.mentions i ≤ 1 := by
  have hle : ∀ i ∈ Finset.univ,
      (if i ≠ k ∧ 0 < k.mentions i then 1 else 0) ≤ k.mentions i := by
    intro i _
    split_ifs with h
    · exact h.2
    · exact Nat.zero_le _
  rw [card_implementers, eq_comm, Finset.sum_eq_sum_iff_of_le hle]
  constructor
  · intro heach
    refine ⟨?_, fun i hi => ?_⟩
    · simpa using (heach k (Finset.mem_univ k)).symm
    · have hi := heach i (Finset.mem_univ i)
      split_ifs at hi <;> omega
  · rintro ⟨hself, hothers⟩ i -
    by_cases hi : i = k
    · subst hi
      simp [hself]
    · have := hothers i hi
      simp only [hi, ne_eq, not_false_eq_true, true_and]
      split_ifs <;> omega

end Declaration

end Surroundings

namespace DesignRules

open Surroundings

variable {here : Surroundings}

/-- **The rule counts mentions.** -/
lemma length_implementations (k : here.Declaration) :
    (implementations here k.outline.name).length = ∑ i, k.mentions i := by
  simp only [implementations, length_flatMap, length_map, ← countP_eq_length_filter]
  exact (Fin.sum_univ_fun_getElem here.classes fun declared =>
    declared.2.bases.countP (baseClassName · == k.outline.name)).symm

lemma mem_implementations {k i : here.Declaration} (h : 0 < k.mentions i) :
    i.outline ∈ implementations here k.outline.name := by
  obtain ⟨base, hbase, hname⟩ := Declaration.mentions_pos_iff.1 h
  refine mem_flatMap.2 ⟨here.classes[i], getElem_mem _, mem_map.2 ⟨base, ?_, rfl⟩⟩
  exact mem_filter.2 ⟨hbase, beq_iff_eq.2 hname⟩

/-- A shared method is one of every implementation. -/
lemma exists_method_of_sharedMethod? {base c : ClassOutline String Span}
    {subclasses : List (ClassOutline String Span)} {shared : String}
    (h : sharedMethod? base subclasses = some shared) (hc : c ∈ subclasses) :
    ∃ method ∈ c.methods, method.name = shared := by
  have hshared := find?_some h
  simp only [Bool.and_eq_true, all_eq_true] at hshared
  simpa [ClassOutline.method?] using hshared.2 c hc

/-- A sighting is of a declaration, and it says how often that is mentioned. -/
lemma exists_declaration_of_mem_strategies {sighting : Sighting} (h : sighting ∈ strategies here) :
    ∃ (k : here.Declaration) (shared : String),
      2 ≤ (implementations here k.outline.name).length ∧
      sharedMethod? k.outline (implementations here k.outline.name) = some shared ∧
      k.IsReportedBy (sighting.toConcept .designPattern "Strategy" "strategy")
        (implementations here k.outline.name).length shared := by
  have hsound := isSound_of_mem_strategies h
  obtain ⟨declared, hdeclared, h⟩ := mem_filterMap.1 h
  obtain ⟨place, hplace, rfl⟩ := mem_iff_getElem.1 hdeclared
  obtain ⟨hfew, h⟩ := Option.ite_none_left_eq_some.1 h
  obtain ⟨shared, hshared, rfl⟩ := Option.map_eq_some_iff.1 h
  refine ⟨⟨place, hplace⟩, shared, Nat.le_of_not_lt hfew, hshared, rfl, rfl, ?_, ?_, ?_⟩ <;>
  · simp only [Sighting.toConcept, hsound.evidence_eq]
    rfl

lemma strategies_mem_builtIn :
    .ofSightings "strategy" .designPattern "Strategy" strategies ∈ Rule.builtIn := by
  simp [Rule.builtIn, all]

/-- **A strategy is reported with all its implementations**: there are at least two mentions of it,
every implementation defines the method, and the number is that of the implementations exactly if no
class mentions the strategy twice and the strategy does not mention its own name. -/
theorem strategies_count_mentions {rule : Rule} (hrule : rule ∈ Rule.builtIn)
    (hname : rule.name = "strategy") (here : Surroundings) :
    ∀ finding ∈ (rule.emit here).findings,
      ∃ (k : here.Declaration) (count : ℕ) (shared : String),
        k.IsReportedBy finding.concept count shared ∧ 2 ≤ count ∧
        (∀ i ∈ k.implementers, ∃ method ∈ i.outline.methods, method.name = shared) ∧
        count = ∑ i, k.mentions i ∧
        (count = k.implementers.card ↔
          k.mentions k = 0 ∧ ∀ i, i ≠ k → k.mentions i ≤ 1) := by
  obtain rfl : rule = .ofSightings "strategy" .designPattern "Strategy" strategies :=
    Rule.eq_of_mem_builtIn hrule strategies_mem_builtIn hname
  intro finding hfinding
  obtain ⟨sighting, hsighting, rfl⟩ := mem_map.1 hfinding
  obtain ⟨k, shared, htwo, hshared, hreported⟩ := exists_declaration_of_mem_strategies hsighting
  have hcount := length_implementations k
  refine ⟨k, _, shared, hreported, htwo, fun i hi => ?_, hcount, ?_⟩
  · have hmentioned := (Declaration.mem_implementers.1 hi).2
    exact exists_method_of_sharedMethod? hshared (mem_implementations hmentioned)
  · rw [hcount]
    exact k.sum_mentions_eq_card_iff

/-- Classes that draw something, with their bases. -/
def drawings (classes : List (String × List String)) : Surroundings where
  modules :=
    [{ path := "shapes.py", language := .python, grammar := "python", functions := []
       classes := classes.mapIdx fun number (name, bases) =>
        { name, superclass := bases.head?, span := ⟨2 * number + 1, 2 * number + 2⟩, bases
          methods := [⟨"draw", [], ⟨2 * number + 2, 2 * number + 2⟩, none, false, true, false,
            "public", [], []⟩]
          fields := [], decorators := [], isExported := true, isAbstract := false }
       imports := [], exports := [], routes := [], hasMainGuard := false }]
  graph := .empty
  analysis := .empty
  manifest := .empty

/-- A class that is extended once with a type argument and once with a qualifier. -/
def genericShapes : Surroundings :=
  drawings [("Shape", ["Generic[T]"]), ("Circle", ["Shape[int]"]), ("Square", ["flat.Shape"]),
    ("Label", ["Text"])]

theorem genericShapes_have_two_implementations :
    ∃ rule ∈ Rule.builtIn, rule.name = "strategy" ∧
      ∃ finding ∈ (rule.emit genericShapes).findings,
        ∃ (k : genericShapes.Declaration) (shared : String),
          k.IsReportedBy finding.concept k.implementers.card shared ∧
          k.outline.name = "Shape" ∧ k.implementers.card = 2 ∧ shared = "draw" := by
  obtain ⟨finding, hfinding, hbase, hmethod⟩ : ∃ finding ∈
      ((Rule.ofSightings "strategy" .designPattern "Strategy" strategies).emit
        genericShapes).findings,
      finding.concept.evidence.lookup "base" = some (.str "Shape") ∧
        finding.concept.evidence.lookup "method" = some (.str "draw") := by
    decide +kernel
  obtain ⟨k, count, shared, hreported, -, -, -, hiff⟩ :=
    strategies_count_mentions strategies_mem_builtIn rfl genericShapes finding hfinding
  have hsingle : ∀ k : genericShapes.Declaration,
      k.mentions k = 0 ∧ ∀ i, i ≠ k → k.mentions i ≤ 1 := by decide +kernel
  have hcard : ∀ k : genericShapes.Declaration, k.outline.name = "Shape" →
      k.implementers.card = 2 := by decide +kernel
  obtain rfl := hiff.2 (hsingle k)
  have hname : k.outline.name = "Shape" := by
    simpa using hreported.base.symm.trans hbase
  refine ⟨_, strategies_mem_builtIn, rfl, finding, hfinding, k, shared, hreported, hname,
    hcard k hname, ?_⟩
  simpa using hreported.method.symm.trans hmethod

/-- **A class with two bases of one name counts twice**, so that two implementations are reported as
three. -/
theorem twofold_base_counts_twice :
    ¬ ∀ rule ∈ Rule.builtIn, rule.name = "strategy" → ∀ here : Surroundings,
      ∀ finding ∈ (rule.emit here).findings, ∃ (k : here.Declaration) (shared : String),
        k.IsReportedBy finding.concept k.implementers.card shared ∧ 2 ≤ k.implementers.card ∧
        ∀ i ∈ k.implementers, ∃ method ∈ i.outline.methods, method.name = shared := by
  intro h
  let here := drawings
    [("Shape", []), ("Circle", ["flat.Shape", "solid.Shape"]), ("Square", ["Shape"])]
  obtain ⟨finding, hfinding, hthree⟩ : ∃ finding ∈
      ((Rule.ofSightings "strategy" .designPattern "Strategy" strategies).emit here).findings,
      finding.concept.evidence.lookup "implementations" = some (.int 3) := by decide +kernel
  obtain ⟨k, shared, hreported, -⟩ := h _ strategies_mem_builtIn rfl here finding hfinding
  have hcard : ∀ k : here.Declaration, (k.implementers.card : Int) ≠ 3 := by decide +kernel
  exact hcard k (by simpa using hreported.implementations.symm.trans hthree)

end DesignRules

end RepoAtlas
