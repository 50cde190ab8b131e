import RepoAtlas.Proofs.Concept.Rules
import RepoAtlas.Proofs.Data.Ascending

/-!
# The order of concepts

Extraction sorts by the file and by the line, and says nothing about concepts that stand at the same
place.  It need not: the rules run one after the other, what they emit is put together in this
order, and **sorting keeps the order of what it does not tell apart**
(`pairwise_mergeSort_of_pairwise`).  So the number of a rule and the place among what the rule emits
are the last two keys of the order, although they are never compared.

`Emitted.Before` is the whole order, on concepts that carry both numbers.  It leaves no choice: what
was emitted can be listed in this order in one way (`Emitted.eq_of_perm`).
-/

namespace RepoAtlas

open List

/-! ## Sorting keeps the order of ties -/

section Ties

variable {α : Type} {le : α → α → Bool} {r : α → α → Prop} {items : List α}

lemma pairwise_zipIdx (items : List α) : items.zipIdx.Pairwise fun a b => a.2 < b.2 := by
  rw [← pairwise_map (R := (· < ·)), zipIdx_map_snd]
  exact pairwise_lt_range'

/-- **Sorting keeps the order of ties**: what stands in some order before is in this order
afterwards, as far as the sort does not tell it apart. -/
lemma pairwise_mergeSort_of_pairwise
    (htrans : ∀ a b c, le a b = true → le b c = true → le a c = true)
    (htotal : ∀ a b, (le a b || le b a) = true) (h : items.Pairwise r) :
    (items.mergeSort le).Pairwise fun a b => le a b = true ∧ (le b a = true → r a b) := by
  rw [← mergeSort_zipIdx, pairwise_map]
  have hsorted := pairwise_mergeSort (zipIdxLE_trans htrans) (zipIdxLE_total htotal) items.zipIdx
  have hplaces : ((items.zipIdx.mergeSort (zipIdxLE le)).map (·.2)).Nodup := by
    refine ((mergeSort_perm _ _).map _).nodup_iff.2 (pairwise_map.2 ?_)
    exact (pairwise_zipIdx items).imp Nat.ne_of_lt
  refine (hsorted.and (pairwise_map.1 hplaces)).imp_of_mem fun {a b} ha hb hboth => ?_
  obtain ⟨hle, hne⟩ := hboth
  rw [mem_mergeSort, mem_zipIdx_iff_getElem?] at ha hb
  obtain ⟨hlta, ha⟩ := List.getElem?_eq_some_iff.1 ha
  obtain ⟨hltb, hb⟩ := List.getElem?_eq_some_iff.1 hb
  unfold zipIdxLE at hle
  split_ifs at hle with hab hba
  · have hlt : a.2 < b.2 := by
      have hle := of_decide_eq_true hle
      omega
    have hr := pairwise_iff_getElem.1 h a.2 b.2 hlta hltb hlt
    rw [ha, hb] at hr
    exact ⟨hab, fun _ => hr⟩
  · exact ⟨hab, fun htie => absurd htie hba⟩

end Ties

/-! ## What rules emit -/

namespace Rule

/-- The rule finishes here, and all that it emits are facts. -/
def YieldsFacts (rule : Rule) (here : Surroundings) : Prop :=
  (rule.emit here).failure = none ∧ ∀ finding ∈ (rule.emit here).findings, finding.isFact = true

lemma YieldsFacts.concepts_eq {rule : Rule} {here : Surroundings} (h : rule.YieldsFacts here) :
    rule.concepts here = .ok ((rule.emit here).findings.map (·.concept)) := by
  simp only [concepts, all_eq_true.2 h.2, h.1, if_true]

lemma yieldsFacts_ofSightings (name : String) (kind : ConceptKind) (label : String)
    (sightings : Surroundings → List Sighting) (here : Surroundings) :
    (ofSightings name kind label sightings).YieldsFacts here := by
  refine ⟨rfl, fun finding hfinding => ?_⟩
  obtain ⟨sighting, -, rfl⟩ := mem_map.1 hfinding
  rfl

end Rule

/-! ## Files and lines -/

namespace Concept

/-- A whole file comes before its lines, and these come one after the other. -/
def PositionBefore : Option ℤ → Option ℤ → Prop
  | none, some _ => True
  | some a, some b => a < b
  | _, none => False

instance : DecidableRel PositionBefore
  | none, some _ => isTrue trivial
  | some a, some b => inferInstanceAs (Decidable (a < b))
  | none, none => isFalse id
  | some _, none => isFalse id

lemma PositionBefore.asymm {p q : Option ℤ} (hpq : PositionBefore p q) (hqp : PositionBefore q p) :
    False := by
  cases p <;> cases q <;> simp_all [PositionBefore]
  omega

lemma positionLE_iff {p q : Option ℤ} : positionLE p q = true ↔ PositionBefore p q ∨ p = q := by
  cases p <;> cases q <;> simp [positionLE, PositionBefore, le_iff_lt_or_eq]

lemma positionLE_trans {p q s : Option ℤ} (hpq : positionLE p q = true)
    (hqs : positionLE q s = true) : positionLE p s = true := by
  cases p <;> cases q <;> cases s <;> simp_all [positionLE]
  omega

lemma positionLE_total (p q : Option ℤ) : positionLE p q = true ∨ positionLE q p = true := by
  cases p <;> cases q <;> simp [positionLE]
  omega

lemma precedes_iff {a b : Concept String} : precedes a b = true ↔
    a.file < b.file ∨ a.file = b.file ∧ positionLE a.position b.position = true := by
  simp [precedes]

lemma precedes_trans (a b c : Concept String) (hab : precedes a b = true)
    (hbc : precedes b c = true) : precedes a c = true := by
  rw [precedes_iff] at *
  rcases hab with hab | ⟨hab, habline⟩ <;> rcases hbc with hbc | ⟨hbc, hbcline⟩
  · exact Or.inl (String.lt_trans hab hbc)
  · exact Or.inl (hbc ▸ hab)
  · exact Or.inl (hab ▸ hbc)
  · exact Or.inr ⟨hab.trans hbc, positionLE_trans habline hbcline⟩

lemma precedes_total (a b : Concept String) : (precedes a b || precedes b a) = true := by
  rw [Bool.or_eq_true, precedes_iff, precedes_iff]
  by_cases hfile : a.file = b.file
  · rcases positionLE_total a.position b.position with hle | hge
    · exact Or.inl (Or.inr ⟨hfile, hle⟩)
    · exact Or.inr (Or.inr ⟨hfile.symm, hge⟩)
  · rcases String.le_total a.file b.file with hle | hge
    · exact Or.inl (Or.inl (String.not_le.1 fun hge => hfile (String.le_antisymm hle hge)))
    · exact Or.inr (Or.inl (String.not_le.1 fun hle => hfile (String.le_antisymm hle hge)))

end Concept

/-! ## The whole order -/

/-- A concept, the number of the rule that emitted it, and its number among what that emitted. -/
structure Emitted where
  concept : Concept String
  rule : ℕ
  turn : ℕ
deriving DecidableEq

namespace Emitted

/-- All that some rules emit, one rule after the other. -/
def all (rules : List Rule) (here : Surroundings) : List Emitted :=
  rules.zipIdx.flatMap fun (rule, number) =>
    (rule.emit here).findings.zipIdx.map fun (finding, turn) => ⟨finding.concept, number, turn⟩

/-- `a` was emitted before `b`. -/
def Precedes (a b : Emitted) : Prop := a.rule < b.rule ∨ a.rule = b.rule ∧ a.turn < b.turn

/-- `a` is listed before `b`: by file, then by line, what has no lines first, then by the rule, and
then in the order in which the rule emitted them. -/
def Before (a b : Emitted) : Prop :=
  a.concept.file < b.concept.file ∨ a.concept.file = b.concept.file ∧
    (Concept.PositionBefore a.concept.position b.concept.position ∨
      a.concept.position = b.concept.position ∧ a.Precedes b)

instance (a b : Emitted) : Decidable (a.Before b) :=
  inferInstanceAs (Decidable (_ ∨ _ ∧ (_ ∨ _ ∧ (_ ∨ _ ∧ _))))

variable {rules : List Rule} {here : Surroundings} {a b : Emitted} {order other : List Emitted}

lemma pairwise_precedes_all (rules : List Rule) (here : Surroundings) :
    (all rules here).Pairwise Precedes := by
  rw [all, pairwise_flatMap]
  constructor
  · rintro ⟨rule, number⟩ -
    rw [pairwise_map]
    exact (pairwise_zipIdx _).imp fun hlt => Or.inr ⟨rfl, hlt⟩
  · refine (pairwise_zipIdx rules).imp fun {first second} hlt a ha b hb => Or.inl ?_
    obtain ⟨_, -, rfl⟩ := mem_map.1 ha
    obtain ⟨_, -, rfl⟩ := mem_map.1 hb
    exact hlt

/-- Numbers aside, these are the concepts of the rules. -/
lemma concepts_all (rules : List Rule) (here : Surroundings) :
    (all rules here).map (·.concept) =
      (rules.map fun rule => (rule.emit here).findings.map (·.concept)).flatten := by
  have hnumbers : ∀ {α β : Type} (f : α → β) (items : List α),
      items.zipIdx.map (fun item => f item.1) = items.map f := by
    intro α β f items
    rw [← zipIdx_map_fst 0 items, map_map, zipIdx_map_fst]
    rfl
  rw [all, map_flatMap, flatMap_def, ← hnumbers _ rules]
  refine congrArg flatten (map_congr_left fun rule _ => ?_)
  rw [map_map]
  exact hnumbers (·.concept) (rule.1.emit here).findings

lemma Precedes.asymm (hab : a.Precedes b) (hba : b.Precedes a) : False := by
  simp only [Precedes] at hab hba
  omega

lemma Before.asymm (hab : a.Before b) (hba : b.Before a) : False := by
  rcases hab with hab | ⟨hfile, hab⟩
  · rcases hba with hba | ⟨hfile, -⟩
    · exact String.lt_irrefl _ (String.lt_trans hab hba)
    · exact String.lt_irrefl _ (hfile ▸ hab)
  · rcases hba with hba | ⟨-, hba⟩
    · exact String.lt_irrefl _ (hfile ▸ hba)
    · rcases hab with hab | ⟨hline, hab⟩ <;> rcases hba with hba | ⟨hline', hba⟩
      · exact hab.asymm hba
      · rw [hline'] at hab
        exact hab.asymm hab
      · rw [hline] at hba
        exact hba.asymm hba
      · exact hab.asymm hba

/-- **There is one way to list what was emitted in order.** -/
lemma eq_of_perm (h : order.Pairwise Before) (h' : other.Pairwise Before) (hperm : order ~ other) :
    order = other :=
  Perm.eq_of_pairwise (fun _ _ _ _ hab hba => (hab.asymm hba).elim) h h' hperm

end Emitted

/-! ## Extraction -/

/-- The order in which modules are handed over cannot be told from the surroundings. -/
lemma Surroundings.ofModules_eq_of_perm {modules other : List SourceModule}
    {graph : DependencyGraph String} {analysis : GraphAnalysis String}
    {manifest : ManifestInfo String} (hdistinct : (modules.map (·.path)).Nodup)
    (hperm : other ~ modules) :
    ofModules other graph analysis manifest = ofModules modules graph analysis manifest := by
  have hsorted : byKey ModuleOutline.path other = byKey ModuleOutline.path modules :=
    byKey_eq_of_perm hdistinct hperm
  simp only [ofModules, hsorted]

namespace Concept

variable {rules : List Rule} {here : Surroundings}

/-- **Rules that yield facts do not stop extraction.** -/
lemma extract_eq_ok (h : ∀ rule ∈ rules, rule.YieldsFacts here) :
    extract rules here = .ok (((Emitted.all rules here).map (·.concept)).mergeSort precedes) := by
  have hfound : rules.mapM (·.concepts here) =
      .ok (rules.map fun rule => (rule.emit here).findings.map (·.concept)) := by
    conv_lhs => rw [← map_id rules]
    exact mapM_map_eq_ok fun rule hrule => (h rule hrule).concepts_eq
  rw [extract, hfound, Emitted.concepts_all]
  rfl

/-- **Extraction lists what was emitted in order**: it sorts the concepts, and this is as good as
sorting them together with their numbers. -/
lemma exists_order (rules : List Rule) (here : Surroundings) : ∃ order : List Emitted,
    ((Emitted.all rules here).map (·.concept)).mergeSort precedes = order.map (·.concept) ∧
      order ~ Emitted.all rules here ∧ order.Pairwise Emitted.Before := by
  let le : Emitted → Emitted → Bool := fun a b => precedes a.concept b.concept
  refine ⟨(Emitted.all rules here).mergeSort le, ?_, mergeSort_perm _ _, ?_⟩
  · exact (map_mergeSort (r := le) (s := precedes) (f := Emitted.concept)
      fun _ _ _ _ => rfl).symm
  · have hties : ((Emitted.all rules here).mergeSort le).Pairwise fun a b =>
        le a b = true ∧ (le b a = true → a.Precedes b) :=
      pairwise_mergeSort_of_pairwise
        (fun a b c => precedes_trans a.concept b.concept c.concept)
        (fun a b => precedes_total a.concept b.concept) (Emitted.pairwise_precedes_all rules here)
    refine hties.imp fun {a b} hboth => ?_
    obtain ⟨hle, htie⟩ := hboth
    rcases precedes_iff.1 hle with hfile | ⟨hfile, hline⟩
    · exact Or.inl hfile
    · refine Or.inr ⟨hfile, ?_⟩
      rcases positionLE_iff.1 hline with hbefore | hsame
      · exact Or.inl hbefore
      · refine Or.inr ⟨hsame, htie (precedes_iff.2 (Or.inr ⟨hfile.symm, ?_⟩))⟩
        exact positionLE_iff.2 (Or.inr hsame.symm)

/-- **Extraction lists what the rules emit**, all of it and nothing else, by file, line, rule and
emission.  It does not matter in which order the modules are handed over. -/
theorem extraction_lists_what_rules_emit (rules : List Rule) (modules : List SourceModule)
    (graph : DependencyGraph String) (analysis : GraphAnalysis String)
    (manifest : ManifestInfo String) (hdistinct : (modules.map (·.path)).Nodup)
    (hfacts : ∀ rule ∈ rules, rule.YieldsFacts (.ofModules modules graph analysis manifest)) :
    (∃ order : List Emitted,
      extract rules (.ofModules modules graph analysis manifest) = .ok (order.map (·.concept)) ∧
        order ~ Emitted.all rules (.ofModules modules graph analysis manifest) ∧
        order.Pairwise Emitted.Before) ∧
    ∀ other, other ~ modules →
      extract rules (.ofModules other graph analysis manifest) =
        extract rules (.ofModules modules graph analysis manifest) := by
  constructor
  · obtain ⟨order, heq, hperm, hbefore⟩ :=
      exists_order rules (.ofModules modules graph analysis manifest)
    exact ⟨order, by rw [extract_eq_ok hfacts, heq], hperm, hbefore⟩
  · intro other hperm
    rw [Surroundings.ofModules_eq_of_perm hdistinct hperm]

/-- Two rules that report every module.  One of them goes from the last module to the first, and
reports a line of each before it reports the file. -/
def markerRules : List Rule :=
  [.ofSightings "marker" .architecturalPattern "Marker" fun here =>
      here.modules.reverse.flatMap fun module =>
        [⟨module.path, some ⟨3, 3⟩, [("seen", true)], []⟩,
          ⟨module.path, none, [("seen", true), ("other", false)], []⟩],
    .ofSightings "echo" .architecturalPattern "Echo" fun here =>
      here.modules.map fun module => ⟨module.path, some ⟨3, 3⟩, [("seen", true)], []⟩]

/-- Modules of which nothing is known but their paths. -/
def bareModules (paths : List String) : List SourceModule :=
  paths.map fun path => ⟨path, .python, "python", [], [], [], [], [], false⟩

theorem markerRules_in_order :
    ((bareModules ["b.py", "a.py"]).map (·.path)).Nodup ∧
    (∀ rule ∈ markerRules, rule.YieldsFacts
      (.ofModules (bareModules ["b.py", "a.py"]) .empty .empty .empty)) ∧
    ∃ concepts,
      extract markerRules (.ofModules (bareModules ["b.py", "a.py"]) .empty .empty .empty) =
        .ok concepts ∧
      extract markerRules (.ofModules (bareModules ["a.py", "b.py"]) .empty .empty .empty) =
        .ok concepts ∧
      concepts.map (fun concept => (concept.file, concept.span.isNone, concept.rule)) =
        [("a.py", true, "marker"), ("a.py", false, "marker"), ("a.py", false, "echo"),
          ("b.py", true, "marker"), ("b.py", false, "marker"), ("b.py", false, "echo")] := by
  have hdistinct : ((bareModules ["b.py", "a.py"]).map (·.path)).Nodup := by decide
  have hperm : bareModules ["a.py", "b.py"] ~ bareModules ["b.py", "a.py"] := by decide
  have hfacts : ∀ rule ∈ markerRules, rule.YieldsFacts
      (.ofModules (bareModules ["b.py", "a.py"]) .empty .empty .empty) := by
    simp only [markerRules, forall_mem_cons, not_mem_nil, IsEmpty.forall_iff, implies_true,
      and_true]
    exact ⟨Rule.yieldsFacts_ofSightings _ _ _ _ _, Rule.yieldsFacts_ofSightings _ _ _ _ _⟩
  have hascending : Ascending ModuleOutline.path (bareModules ["a.py", "b.py"]) := by decide
  have hhere : Surroundings.ofModules (bareModules ["b.py", "a.py"]) .empty .empty .empty =
      ⟨bareModules ["a.py", "b.py"], .empty, .empty, .empty⟩ := by
    rw [← Surroundings.ofModules_eq_of_perm hdistinct hperm, Surroundings.ofModules]
    exact congrArg (Surroundings.mk · .empty .empty .empty) hascending.byKey_eq
  obtain ⟨⟨order, hextract, horder, hbefore⟩, hother⟩ := extraction_lists_what_rules_emit
    markerRules (bareModules ["b.py", "a.py"]) .empty .empty .empty hdistinct hfacts
  have hlist : order = [3, 2, 4, 1, 0, 5].filterMap fun place =>
      (Emitted.all markerRules ⟨bareModules ["a.py", "b.py"], .empty, .empty, .empty⟩)[place]? := by
    rw [hhere] at horder
    exact Emitted.eq_of_perm hbefore (by decide +kernel) (horder.trans (by decide +kernel))
  refine ⟨hdistinct, hfacts, _, hextract, (hother _ hperm).trans hextract, ?_⟩
  rw [hlist]
  decide +kernel

end Concept

end RepoAtlas
