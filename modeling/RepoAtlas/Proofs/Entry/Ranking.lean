import RepoAtlas.Proofs.Entry.Heuristics
import RepoAtlas.Proofs.Entry.Shares
import RepoAtlas.Proofs.Run.Charting

/-!
# What the ranking says

Every node of a graph is a candidate, and the ranking says of each which heuristics hold of it, with
a sentence of evidence for each, and what share of the weights they have.  `IsAccountOf` is what
there is to say of one node; `ranking_is_an_account` puts it together with the order of the list.

**A module that nothing imports** always has a positive share of the weights.  What is listed is the
rounded share, and rounding may take all of it: `roots_score_above_zero_iff` says when.
-/

namespace RepoAtlas

namespace EntryPoint

open List

variable {α : Type} {scale : Scale α} {weights : Weights α} {graph : DependencyGraph String}
  {modules : List SourceModule} {hints : List (EntryHint String)} {index : ℕ}
  {node : GraphNode String} {heuristic : Heuristic}

/-! ## Entries -/

lemma mem_rank {entry : EntryPoint String α} : entry ∈ rank scale weights graph modules hints ↔
    ∃ index node, graph.nodes[index]? = some node ∧
      ofCandidate scale weights (candidateAt graph modules hints index node) = entry := by
  rw [rank, (mergeSort_perm _ _).mem_iff, candidates_eq, mem_map]
  constructor
  · rintro ⟨candidate, hcandidate, rfl⟩
    obtain ⟨index, hindex, rfl⟩ := mem_mapIdx.1 hcandidate
    exact ⟨index, graph.nodes[index], getElem?_eq_getElem hindex, rfl⟩
  · rintro ⟨index, node, hnode, rfl⟩
    obtain ⟨hindex, rfl⟩ := List.getElem?_eq_some_iff.1 hnode
    exact ⟨_, mem_mapIdx.2 ⟨index, hindex, rfl⟩, rfl⟩

lemma heuristics_ofCandidate (candidate : Candidate) :
    (ofCandidate scale weights candidate).heuristics =
      (candidate.matched.map (·.1)).map Heuristic.label := by
  rw [map_map]
  rfl

lemma label_mem_heuristics_iff :
    heuristic.label ∈ (ofCandidate scale weights
      (candidateAt graph modules hints index node)).heuristics ↔
      Holds graph modules hints index node heuristic := by
  rw [heuristics_ofCandidate, mem_map_of_injective label_injective, mem_heuristics_matched_iff]

/-! ## Exact scores -/

section Exact

variable {weights : Weights ℚ}

lemma score_ofCandidate (h : weights.IsSound) (candidate : Candidate) :
    (ofCandidate .exact weights candidate).score =
      Scale.roundToFour (weights.share (candidate.matched.map (·.1))) := by
  rw [← Scale.share_exact h, map_map]
  rfl

/-- One entry comes before another: its score is higher, or its path comes first among equals. -/
def Outranks (a b : EntryPoint String ℚ) : Prop :=
  b.score < a.score ∨ a.score = b.score ∧ a.path < b.path

lemma precedes_exact_iff {a b : EntryPoint String ℚ} : precedes .exact a b = true ↔
    b.score < a.score ∨ a.score = b.score ∧ a.path ≤ b.path := by
  have hless : ∀ x y : ℚ, Scale.exact.less x y = decide (x < y) := fun _ _ => rfl
  simp only [precedes, hless, Bool.or_eq_true, Bool.and_eq_true, Bool.not_eq_true',
    decide_eq_true_eq, decide_eq_false_iff_not, not_lt]
  constructor
  · rintro (hlt | ⟨hle, hpath⟩)
    · exact Or.inl hlt
    · rcases hle.lt_or_eq with hlt | heq
      · exact Or.inl hlt
      · exact Or.inr ⟨heq.symm, hpath⟩
  · rintro (hlt | ⟨heq, hpath⟩)
    · exact Or.inl hlt
    · exact Or.inr ⟨heq.ge, hpath⟩

lemma precedes_exact_trans (a b c : EntryPoint String ℚ) (hab : precedes .exact a b = true)
    (hbc : precedes .exact b c = true) : precedes .exact a c = true := by
  rw [precedes_exact_iff] at *
  rcases hab with hab | ⟨hab, habpath⟩ <;> rcases hbc with hbc | ⟨hbc, hbcpath⟩
  · exact Or.inl (hbc.trans hab)
  · exact Or.inl (hbc ▸ hab)
  · exact Or.inl (hab ▸ hbc)
  · exact Or.inr ⟨hab.trans hbc, String.le_trans habpath hbcpath⟩

lemma precedes_exact_total (a b : EntryPoint String ℚ) :
    (precedes .exact a b || precedes .exact b a) = true := by
  rw [Bool.or_eq_true, precedes_exact_iff, precedes_exact_iff]
  rcases lt_trichotomy a.score b.score with hlt | heq | hgt
  · exact Or.inr (Or.inl hlt)
  · rcases String.le_total a.path b.path with hle | hge
    · exact Or.inl (Or.inr ⟨heq, hle⟩)
    · exact Or.inr (Or.inr ⟨heq.symm, hge⟩)
  · exact Or.inl (Or.inl hgt)

/-- **The ranking is in order.**  Distinct paths leave no ties. -/
lemma rank_pairwise_outranks (hdistinct : (graph.nodes.map (·.path)).Nodup) :
    (rank .exact weights graph modules hints).Pairwise Outranks := by
  have hsorted : (rank .exact weights graph modules hints).Pairwise
      fun a b => precedes .exact a b = true :=
    pairwise_mergeSort precedes_exact_trans precedes_exact_total _
  have hpaths : (rank .exact weights graph modules hints).Pairwise fun a b => a.path ≠ b.path := by
    refine pairwise_map.1 (((paths_rank _ _ _ _ _).nodup_iff).2 hdistinct)
  refine hsorted.imp₂ (fun a b hle hne => ?_) hpaths
  rcases precedes_exact_iff.1 hle with hlt | ⟨heq, hpath⟩
  · exact Or.inl hlt
  · refine Or.inr ⟨heq, String.not_le.1 fun hge => hne ?_⟩
    exact String.le_antisymm hpath hge

end Exact

/-! ## The whole ranking -/

section Account

variable (weights : Weights ℚ) (graph : DependencyGraph String) (modules : List SourceModule)
  (hints : List (EntryHint String)) (index : ℕ) (node : GraphNode String)

/-- An entry says of the node with number `index` what there is to say: which heuristics are
`listed`, with which evidence, and what share of the weights they have. -/
structure IsAccountOf (listed : List (Heuristic × String)) (entry : EntryPoint String ℚ) :
    Prop where
  path : entry.path = node.path
  heuristics : entry.heuristics = listed.map (·.1.label)
  evidence : entry.evidence = listed.map (·.2)
  /-- The heuristics stand in their order. -/
  ordered : (listed.map (·.1)).Sublist Heuristic.all
  complete : ∀ heuristic, heuristic ∈ listed.map (·.1) ↔
    Holds graph modules hints index node heuristic
  shown : ∀ pair ∈ listed, Shows graph modules hints node pair.1 pair.2
  score : Scale.RoundsToFour (weights.share (listed.map (·.1))) entry.score
  nonneg : 0 ≤ entry.score
  le_one : entry.score ≤ 1

variable {weights}

lemma isAccountOf_ofCandidate (h : weights.IsSound) :
    IsAccountOf weights graph modules hints index node
      (candidateAt graph modules hints index node).matched
      (ofCandidate .exact weights (candidateAt graph modules hints index node)) where
  path := rfl
  heuristics := rfl
  evidence := rfl
  ordered := heuristics_matched_sublist _
  complete _ := mem_heuristics_matched_iff
  shown pair hmatched := (holds_and_shows_of_evidence? (mem_matched.1 hmatched)).2
  score := by
    rw [score_ofCandidate h]
    exact Scale.roundsToFour_roundToFour (Weights.share_nonneg h _)
  nonneg := by
    rw [score_ofCandidate h]
    exact Scale.roundToFour_nonneg (Weights.share_nonneg h _)
  le_one := by
    rw [score_ofCandidate h]
    exact Scale.roundToFour_le_one (Weights.share_nonneg h _)
      (Weights.share_le_one h (nodup_heuristics_matched _))

/-- Scores go with the heuristics: who has all that another has is not below it. -/
lemma score_le_score (h : weights.IsSound) {a b : Candidate} (hsubset :
    (ofCandidate .exact weights b).heuristics ⊆ (ofCandidate .exact weights a).heuristics) :
    (ofCandidate .exact weights b).score ≤ (ofCandidate .exact weights a).score := by
  rw [heuristics_ofCandidate, heuristics_ofCandidate] at hsubset
  have hlisted : b.matched.map (·.1) ⊆ a.matched.map (·.1) := by
    intro heuristic hheuristic
    exact (mem_map_of_injective label_injective).1 (hsubset (mem_map_of_mem hheuristic))
  -- Rounding is monotone, so it is enough to compare the shares.
  rw [score_ofCandidate h, score_ofCandidate h]
  exact Scale.roundToFour_le_roundToFour (Weights.share_nonneg h _)
    (Weights.share_le_share h (nodup_heuristics_matched b) hlisted)

end Account

section Accepted

variable {value : Value} {given : Weights Binary64}

/-- **The ranking is an account of the graph.**  It lists every node once, in order, with the
heuristics that hold of it and a score between zero and one, which is the share of their weights;
and more heuristics never make a lower score. -/
theorem ranking_is_an_account (haccepted : Weights.ofValue value = .ok given)
    (hfinite : ∀ heuristic, (given heuristic).isFinite)
    (hdistinct : (graph.nodes.map (·.path)).Nodup) (modules : List SourceModule)
    (hints : List (EntryHint String)) :
    let ranked := rank .exact given.exact graph modules hints
    ranked.map (·.path) ~ graph.nodes.map (·.path) ∧ ranked.Pairwise Outranks ∧
      (∀ entry ∈ ranked, ∃ index node listed, graph.nodes[index]? = some node ∧
        IsAccountOf given.exact graph modules hints index node listed entry) ∧
      ∀ a ∈ ranked, ∀ b ∈ ranked, b.heuristics ⊆ a.heuristics → b.score ≤ a.score := by
  intro ranked
  have hsound := Weights.isSound_exact haccepted hfinite
  refine ⟨paths_rank _ _ _ _ _, rank_pairwise_outranks hdistinct, ?accounts, ?monotone⟩
  case accounts =>
    intro entry hentry
    obtain ⟨index, node, hnode, rfl⟩ := mem_rank.1 hentry
    exact ⟨index, node, _, hnode, isAccountOf_ofCandidate graph modules hints index node hsound⟩
  case monotone =>
    intro a ha b hb hsubset
    obtain ⟨_, _, -, rfl⟩ := mem_rank.1 ha
    obtain ⟨_, _, -, rfl⟩ := mem_rank.1 hb
    exact score_le_score hsound hsubset

/-- A server with a route, which imports a module, next to the page that it serves. -/
def servedGraph : DependencyGraph String where
  nodes := [⟨"app.py", .python⟩, ⟨"lib.py", .python⟩, ⟨"web/index.js", .javaScript⟩]
  edges := [⟨0, .internal, "lib", 1, some 1, none⟩, ⟨0, .external, "flask", 2, none, some "flask"⟩]

/-- The outline of the server; the other outlines are not at hand. -/
def servedModules : List SourceModule :=
  [⟨"app.py", .python, "python", [], [], [], [],
    [⟨"flask", "GET", "/", ⟨4, 4⟩, some "page"⟩], true⟩]

def servedHints : List (EntryHint String) :=
  [⟨"path", "web", "package.json"⟩, ⟨"module", "app", "pyproject.toml"⟩,
    ⟨"path", "web/index", "web/package.json"⟩]

theorem servedGraph_is_accounted_for :
    ∃ given, Weights.ofValue (.dict [("main_guard", .int 0)]) = .ok given ∧
      (∀ heuristic, (given heuristic).isFinite) ∧ (servedGraph.nodes.map (·.path)).Nodup ∧
      let ranked := rank .exact given.exact servedGraph servedModules servedHints
      ranked.map (·.path) ~ ["app.py", "lib.py", "web/index.js"] ∧ ranked.Pairwise Outranks ∧
        (∀ entry ∈ ranked, ∃ index node listed, servedGraph.nodes[index]? = some node ∧
          IsAccountOf given.exact servedGraph servedModules servedHints index node listed entry) ∧
        ∀ a ∈ ranked, ∀ b ∈ ranked, b.heuristics ⊆ a.heuristics → b.score ≤ a.score := by
  have haccepted : Weights.ofValue (.dict [("main_guard", .int 0)]) =
      .ok (Weights.standard.set .mainGuard (.ofInt 0)) := rfl
  have hfinite : ∀ heuristic, (Weights.standard.set .mainGuard (.ofInt 0) heuristic :
      Binary64).isFinite := by
    intro heuristic
    cases heuristic <;> decide +kernel
  have hdistinct : (servedGraph.nodes.map (·.path)).Nodup := by decide
  exact ⟨_, haccepted, hfinite, hdistinct,
    ranking_is_an_account haccepted hfinite hdistinct servedModules servedHints⟩

/-- **When the score of a root is positive.**  The entry of a module that nothing imports always
lists that nothing imports it, and has a positive share of the weights; but shares of at most half a
ten-thousandth are rounded to zero. -/
theorem roots_score_above_zero_iff (haccepted : Weights.ofValue value = .ok given)
    (hfinite : ∀ heuristic, (given heuristic).isFinite) (modules : List SourceModule)
    (hints : List (EntryHint String)) (hnode : graph.nodes[index]? = some node)
    (hroot : ∀ edge ∈ graph.edges, edge.kind = .internal → edge.target ≠ some index) :
    ∃ entry ∈ rank .exact given.exact graph modules hints, ∃ listed : List Heuristic,
      entry.path = node.path ∧ entry.heuristics = listed.map (·.label) ∧
      Heuristic.zeroInDegree ∈ listed ∧ 0 < given.exact.share listed ∧
      (0 < entry.score ↔ 1 / 20000 < given.exact.share listed) ∧
      (given.exact.sumOf Heuristic.all < 20000 * given.exact .zeroInDegree → 0 < entry.score) := by
  have hsound := Weights.isSound_exact haccepted hfinite
  have haccount := isAccountOf_ofCandidate graph modules hints index node hsound
  have hlisted : Heuristic.zeroInDegree ∈
      (candidateAt graph modules hints index node).matched.map (·.1) :=
    (haccount.complete .zeroInDegree).2 hroot
  -- The weight of this one heuristic, which is positive, is part of what is listed.
  have hweight := Weights.le_sumOf_of_mem hsound hlisted
  have htotal := Weights.sumOf_all_pos hsound
  have hpositive : 0 < given.exact.share
      ((candidateAt graph modules hints index node).matched.map (·.1)) :=
    div_pos (hsound.positive.trans_le hweight) htotal
  have hscore : 0 < (ofCandidate .exact given.exact
      (candidateAt graph modules hints index node)).score ↔ 1 / 20000 < given.exact.share
        ((candidateAt graph modules hints index node).matched.map (·.1)) := by
    rw [score_ofCandidate hsound]
    exact Scale.roundToFour_pos_iff hpositive.le
  refine ⟨_, mem_rank.2 ⟨index, node, hnode, rfl⟩, _, haccount.path, ?_, hlisted, hpositive, hscore,
    ?_⟩
  · exact heuristics_ofCandidate _
  · intro henough
    refine hscore.2 ((lt_div_iff₀ htotal).2 ?_)
    linarith

/-- Manifests count a hundred thousand times as much as imports. -/
def heavyManifests : Value := .dict [("manifest_main", .int 100000), ("zero_in_degree", .int 1)]

def heavyWeights : Weights Binary64 :=
  (Weights.standard.set .manifestMain (.ofInt 100000)).set .zeroInDegree (.ofInt 1)

lemma ofValue_heavyManifests : Weights.ofValue heavyManifests = .ok heavyWeights := rfl

lemma isFinite_heavyWeights : ∀ heuristic, (heavyWeights heuristic).isFinite := by
  intro heuristic
  cases heuristic <;> decide +kernel

def loneGraph : DependencyGraph String := ⟨[⟨"a.py", .python⟩], []⟩

/-- The lone module has a positive share, which is too small to show. -/
theorem loneGraph_has_a_share :
    Weights.ofValue heavyManifests = .ok heavyWeights ∧
    (∀ heuristic, (heavyWeights heuristic).isFinite) ∧
    loneGraph.nodes[0]? = some ⟨"a.py", .python⟩ ∧
    (∀ edge ∈ loneGraph.edges, edge.kind = .internal → edge.target ≠ some 0) ∧
    ∃ entry ∈ rank .exact heavyWeights.exact loneGraph [] [], ∃ listed : List Heuristic,
      entry.path = "a.py" ∧ entry.heuristics = listed.map (·.label) ∧
      Heuristic.zeroInDegree ∈ listed ∧ 0 < heavyWeights.exact.share listed ∧
      (0 < entry.score ↔ 1 / 20000 < heavyWeights.exact.share listed) ∧
      (heavyWeights.exact.sumOf Heuristic.all < 20000 * heavyWeights.exact .zeroInDegree →
        0 < entry.score) := by
  have hroot : ∀ edge ∈ loneGraph.edges, edge.kind = .internal → edge.target ≠ some 0 := by decide
  exact ⟨ofValue_heavyManifests, isFinite_heavyWeights, rfl, hroot,
    roots_score_above_zero_iff ofValue_heavyManifests isFinite_heavyWeights [] [] rfl hroot⟩

/-- **A root may score zero.**  One part in a hundred thousand and eight is rounded away. -/
theorem loneGraph_scores_zero :
    ¬ ∀ (value : Value) (given : Weights Binary64) (graph : DependencyGraph String)
      (modules : List SourceModule) (hints : List (EntryHint String)) (index : ℕ)
      (node : GraphNode String),
      Weights.ofValue value = .ok given → (∀ heuristic, (given heuristic).isFinite) →
      graph.nodes[index]? = some node →
      (∀ edge ∈ graph.edges, edge.kind = .internal → edge.target ≠ some index) →
      ∀ entry ∈ rank .exact given.exact graph modules hints, entry.path = node.path →
        0 < entry.score := by
  intro h
  have hranked : rank .exact heavyWeights.exact loneGraph [] [] =
      [⟨"a.py", 0, ["zero_in_degree"], ["in-degree = 0"]⟩] := by decide +kernel
  have hscore := h _ _ loneGraph [] [] 0 _ ofValue_heavyManifests isFinite_heavyWeights rfl
    (by decide) ⟨"a.py", 0, ["zero_in_degree"], ["in-degree = 0"]⟩ (hranked ▸ mem_singleton_self _)
    rfl
  exact lt_irrefl 0 hscore

end Accepted

end EntryPoint

end RepoAtlas
