import RepoAtlas.Proofs.Data.Entries
import RepoAtlas.Proofs.Graph.Clusters
import RepoAtlas.Proofs.Graph.Counters
import RepoAtlas.Proofs.Graph.CycleReport

/-!
# The depths of modules

`Depths.sweep` works on what is left of a graph when the edges of its cycles are set aside; there it
settles what `Depths.settle` does (`sweep_without_eq_settle`).  The report meets every cycle, so the
sweep never gets stuck and every module gets a depth (`cyclePairs_break_every_cycle`).  With any
other edges set aside it gets stuck exactly if a cycle is left (`depths_refused_iff_cycle_left`).

The rule for the depths can then be read off all internal edges, as if none had been set aside.
Setting edges aside only ever hides an importer of the module's own cluster: the ends of a collected
edge are on one reported walk, so no edge into a module off all cycles is collected, and an importer
from another cluster keeps its edge.  `DepthLaw` is that rule, together with the bound on depths and
the longest chain of imports, which are consequences of it.
-/

namespace RepoAtlas.DependencyGraph

open List

variable {graph : DependencyGraph String} {aside : List (ℕ × ℕ)} {v : ℕ}

/-! ## The sweep over a graph -/

/-- The nodes of a graph with their importers, the edges in `aside` not counted. -/
def importersWithout (graph : DependencyGraph String) (aside : List (ℕ × ℕ)) :
    List Depths.Unsettled :=
  (range graph.size).map fun v => ⟨v, (graph.without aside).predecessors v⟩

/-- **The counters settle what the plain sweep settles.**  An edge is counted at the node it enters
and taken away at the node it leaves. -/
lemma sweep_without_eq_settle (hin : graph.EdgesInside) (clusters : Clusters)
    (aside : List (ℕ × ℕ)) :
    Depths.sweep clusters graph.size (graph.without aside).predecessors
        (graph.without aside).successors =
      Depths.settle clusters graph.size [] (graph.importersWithout aside) :=
  Depths.sweep_eq_settle clusters (graph.without aside).count_successors fun _ _ hi =>
    (mem_predecessors.1 hi).lt_size (hin.without aside)

lemma depthsWith_eq (hin : graph.EdgesInside) (walks : List (List ℕ)) (aside : List (ℕ × ℕ)) :
    graph.depthsWith walks aside =
      (Depths.settle (Clusters.ofWalks walks) graph.size [] (graph.importersWithout aside)).map
        fun settled => Entries.ofPairs <| graph.nodes.mapIdx fun v node =>
          (node.path, (Depths.depthIn settled v : ℤ)) := by
  have himporters : (graph.without aside).predecessors = fun v =>
      ((graph.internalPairs.filter (!aside.contains ·)).filter (·.2 == v)).map (·.1) :=
    funext fun v => by rw [predecessors, internalPairs_without]
  have himported : (graph.without aside).successors = fun v =>
      ((graph.internalPairs.filter (!aside.contains ·)).filter (·.1 == v)).map (·.2) :=
    funext fun v => by rw [successors, internalPairs_without]
  rw [← sweep_without_eq_settle hin, himporters, himported]
  rfl

lemma nodes_importersWithout (graph : DependencyGraph String) (aside : List (ℕ × ℕ)) :
    (graph.importersWithout aside).map (·.node) = range graph.size := by
  rw [importersWithout, map_map]
  exact map_id _

lemma sweeping_importersWithout (hin : graph.EdgesInside) (clusters : Clusters)
    (aside : List (ℕ × ℕ)) :
    Depths.Sweeping clusters (graph.without aside).predecessors []
      (graph.importersWithout aside) := by
  refine ⟨Depths.Lawful.nil, ?_, fun item hitem => ?_, fun item hitem i hi => ?_⟩
  · rw [nodes_importersWithout]
    exact nodup_range
  · obtain ⟨v, -, rfl⟩ := mem_map.1 hitem
    rfl
  · rw [nodes_importersWithout]
    obtain ⟨v, -, rfl⟩ := mem_map.1 hitem
    exact mem_range.2 ((mem_predecessors.1 hi).lt_size (hin.without aside)).1

/-- **There are depths whenever the remaining edges are acyclic.** -/
lemma exists_settled (hin : graph.EdgesInside) (hacyclic : (graph.without aside).IsAcyclic)
    (clusters : Clusters) :
    ∃ settled, Depths.settle clusters graph.size [] (graph.importersWithout aside) = some settled ∧
      Depths.Lawful clusters (graph.without aside).predecessors settled ∧
        settled.map (·.1) ~ range graph.size := by
  have hsweep := sweeping_importersWithout hin clusters aside
  have hlength : (graph.importersWithout aside).length ≤ graph.size := by
    simp [importersWithout]
  obtain ⟨settled, hsettled, hlawful, hperm⟩ :=
    hsweep.settles (hacyclic.mono fun _ _ h => mem_predecessors.1 h) hlength
  rw [nodes_importersWithout] at hperm
  exact ⟨settled, hsettled, hlawful, hperm⟩

lemma exists_analysis (hin : graph.EdgesInside) :
    ∃ analysis settled, graph.analyze = .ok analysis ∧
      analysis.cycles = graph.findCycles.walks.map (fun walk => ⟨walk.filterMap graph.path?⟩) ∧
      analysis.depths = Entries.ofPairs (graph.nodes.mapIdx fun v node =>
        (node.path, (Depths.depthIn settled v : ℤ))) ∧
      Depths.Lawful (Clusters.ofWalks graph.findCycles.walks)
        (graph.without graph.findCycles.pairs).predecessors settled ∧
      settled.map (·.1) ~ range graph.size := by
  obtain ⟨settled, hsettled, hlawful, hperm⟩ :=
    exists_settled hin (isAcyclic_without_pairs hin) (Clusters.ofWalks graph.findCycles.walks)
  refine ⟨⟨_, _⟩, settled, ?_, rfl, rfl, hlawful, hperm⟩
  simp only [analyze, depthsWith_eq hin, hsettled]
  rfl

lemma keys_mapIdx (graph : DependencyGraph String) (depth : ℕ → ℤ) :
    (graph.nodes.mapIdx fun v node => (node.path, depth v)).map (·.1) =
      graph.nodes.map (·.path) := by
  refine ext_getElem? fun i => ?_
  rw [getElem?_map, getElem?_map, getElem?_mapIdx, Option.map_map]
  rfl

lemma ofPairs_mapIdx (hd : graph.PathsDistinct) (depth : ℕ → ℤ) :
    Entries.ofPairs (graph.nodes.mapIdx fun v node => (node.path, depth v)) =
      graph.nodes.mapIdx fun v node => (node.path, depth v) := by
  refine Entries.ofPairs_eq_self ?_
  rw [Entries.KeysDistinct, keys_mapIdx]
  exact hd

/-- **The collected edges break every cycle.**  Without them nothing is left of a cycle; so the
depths are never refused, and every module has exactly one. -/
theorem cyclePairs_break_every_cycle (hin : graph.EdgesInside) :
    (graph.without graph.findCycles.pairs).IsAcyclic ∧
      ∃ analysis, graph.analyze = .ok analysis ∧
        (graph.PathsDistinct → analysis.depths.map (·.1) = graph.nodes.map (·.path)) := by
  refine ⟨isAcyclic_without_pairs hin, ?_⟩
  obtain ⟨analysis, settled, hanalyze, -, hdepths, -⟩ := exists_analysis hin
  refine ⟨analysis, hanalyze, fun hd => ?_⟩
  rw [hdepths, ofPairs_mapIdx hd, keys_mapIdx]

theorem overlappingCycles_broken :
    overlappingCycles.EdgesInside ∧ overlappingCycles.PathsDistinct ∧
      (overlappingCycles.without overlappingCycles.findCycles.pairs).IsAcyclic ∧
        ∃ analysis, overlappingCycles.analyze = .ok analysis ∧
          analysis.depths.map (·.1) = overlappingCycles.nodes.map (·.path) := by
  have hin : overlappingCycles.EdgesInside := by decide
  have hd : overlappingCycles.PathsDistinct := by decide
  obtain ⟨hacyclic, analysis, hanalyze, hpaths⟩ := cyclePairs_break_every_cycle hin
  exact ⟨hin, hd, hacyclic, analysis, hanalyze, hpaths hd⟩

/-! ## When depths are refused -/

lemma isAcyclic_of_settle (hin : graph.EdgesInside) {clusters : Clusters}
    {settled : Depths.Settled}
    (h : Depths.settle clusters graph.size [] (graph.importersWithout aside) = some settled) :
    (graph.without aside).IsAcyclic := by
  obtain ⟨hlawful, hperm⟩ := (sweeping_importersWithout hin clusters aside).of_settle h
  rw [nodes_importersWithout] at hperm
  refine (hlawful.noCycle ?_).mono fun _ _ himports => mem_predecessors.2 himports
  intro v u hu
  exact hperm.mem_iff.2 (mem_range.2 ((mem_predecessors.1 hu).lt_size (hin.without aside)).2)

lemma isAcyclic_without_iff : (graph.without aside).IsAcyclic ↔
    ¬ ∃ v, Relation.TransGen (fun i j => graph.Imports i j ∧ (i, j) ∉ aside) v v := by
  have hsame : (graph.without aside).Imports = fun i j => graph.Imports i j ∧ (i, j) ∉ aside := by
    funext i j
    exact propext imports_without
  rw [IsAcyclic, NoCycle, hsame, not_exists]

/-- Depths are given by a sweep that comes to an end. -/
lemma exists_of_depthsWith (hin : graph.EdgesInside) (hd : graph.PathsDistinct)
    {walks : List (List ℕ)} {depths : List (String × ℤ)}
    (h : graph.depthsWith walks aside = some depths) :
    ∃ settled, Depths.settle (Clusters.ofWalks walks) graph.size []
        (graph.importersWithout aside) = some settled ∧
      depths = graph.nodes.mapIdx fun v node => (node.path, (Depths.depthIn settled v : ℤ)) := by
  rw [depthsWith_eq hin] at h
  obtain ⟨settled, hsettled, hdepths⟩ := Option.map_eq_some_iff.1 h
  exact ⟨settled, hsettled, hdepths.symm.trans (ofPairs_mapIdx hd _)⟩

/-- **Depths are refused exactly if a cycle is left**, whatever edges are set aside and whatever
walks are taken for the cycles.  Otherwise every module has one depth, and it is less than the
number of modules. -/
theorem depths_refused_iff_cycle_left (hin : graph.EdgesInside) (hd : graph.PathsDistinct)
    (walks : List (List ℕ)) (aside : List (ℕ × ℕ)) :
    (graph.depthsWith walks aside = none ↔
      ∃ v, Relation.TransGen (fun i j => graph.Imports i j ∧ (i, j) ∉ aside) v v) ∧
    ∀ depths, graph.depthsWith walks aside = some depths →
      depths.map (·.1) = graph.nodes.map (·.path) ∧
      ∀ entry ∈ depths, 0 ≤ entry.2 ∧ entry.2 ≤ (graph.size : ℤ) - 1 := by
  constructor
  · rw [depthsWith_eq hin, Option.map_eq_none_iff]
    constructor
    · intro hstuck
      by_contra hnone
      obtain ⟨settled, hsettled, -⟩ :=
        exists_settled hin (isAcyclic_without_iff.2 hnone) (Clusters.ofWalks walks)
      simp [hsettled] at hstuck
    · intro hcycle
      by_contra hsome
      obtain ⟨settled, hsettled⟩ := Option.ne_none_iff_exists'.1 hsome
      exact isAcyclic_without_iff.1 (isAcyclic_of_settle hin hsettled) hcycle
  · intro depths hdepths
    obtain ⟨settled, hsettled, rfl⟩ := exists_of_depthsWith hin hd hdepths
    obtain ⟨hlawful, hperm⟩ := (sweeping_importersWithout hin _ aside).of_settle hsettled
    rw [nodes_importersWithout] at hperm
    have hlength : settled.length = graph.size := by simpa using hperm.length_eq
    refine ⟨keys_mapIdx graph _, ?_⟩
    intro entry hentry
    obtain ⟨v, hv, rfl⟩ := mem_mapIdx.1 hentry
    have hlt := hlawful.depthIn_lt v (hperm.mem_iff.2 (mem_range.2 hv))
    simp only
    omega

theorem overlappingCycles_refused_with_a_loop_left :
    overlappingCycles.EdgesInside ∧ overlappingCycles.PathsDistinct ∧
      overlappingCycles.depthsWith [[1, 2, 1]] [(2, 1)] = none ∧
      (∃ v, Relation.TransGen
        (fun i j => overlappingCycles.Imports i j ∧ (i, j) ∉ [(2, 1)]) v v) ∧
      ∃ depths, overlappingCycles.depthsWith [[1, 2, 1]] [(2, 1), (2, 2)] = some depths ∧
        depths = [("cli.js", 0), ("core.js", 0), ("events.js", 0), ("log.js", 1)] ∧
        ∀ entry ∈ depths, 0 ≤ entry.2 ∧ entry.2 ≤ (overlappingCycles.size : ℤ) - 1 := by
  have hin : overlappingCycles.EdgesInside := by decide
  have hd : overlappingCycles.PathsDistinct := by decide
  have hnone : overlappingCycles.depthsWith [[1, 2, 1]] [(2, 1)] = none := by decide
  have hsome : overlappingCycles.depthsWith [[1, 2, 1]] [(2, 1), (2, 2)] =
      some [("cli.js", 0), ("core.js", 0), ("events.js", 0), ("log.js", 1)] := by decide
  exact ⟨hin, hd, hnone, (depths_refused_iff_cycle_left hin hd _ _).1.1 hnone, _, hsome, rfl,
    ((depths_refused_iff_cycle_left hin hd _ _).2 _ hsome).2⟩

/-! ## The rule over all internal edges -/

/-- The numbers of edges of the chains of imports that end at a module. -/
def chainLengths (graph : DependencyGraph String) (v : ℕ) : Set ℕ :=
  {n | ∃ chain : List ℕ,
    chain.IsChain graph.Imports ∧ chain.getLast? = some v ∧ chain.length = n + 1}

/-- The rule for depths, over all internal edges.  Modules belong to one cluster if they are joined
by a chain of reported walks, each of which shares a module with the next. -/
structure DepthLaw (graph : DependencyGraph String) (depth : ℕ → ℕ) : Prop where
  /-- Off all cycles a module lies one deeper than its deepest importer. -/
  off_cycle : ∀ v < graph.size, (∀ walk ∈ graph.findCycles.walks, v ∉ walk) →
    Depths.IsMaxOrZero {d | ∃ u, graph.Imports u v ∧ d = depth u + 1} (depth v)
  /-- On a cycle it lies as deep as the shallowest importer outside its cluster. -/
  on_cycle : ∀ v < graph.size, (∃ walk ∈ graph.findCycles.walks, v ∈ walk) →
    Depths.IsMinOrZero {d | ∃ u, graph.Imports u v ∧
      ¬ Clusters.SameCluster graph.findCycles.walks u v ∧ d = depth u} (depth v)
  bounded : ∀ v < graph.size, depth v ≤ graph.size - 1
  /-- Without cycles the depth is the length of the longest chain of imports. -/
  longest : graph.IsAcyclic → ∀ v < graph.size, IsGreatest (graph.chainLengths v) (depth v)

lemma sameCluster_of_mem_pairs (hin : graph.EdgesInside) (hd : graph.PathsDistinct) {u : ℕ}
    (h : (u, v) ∈ graph.findCycles.pairs) :
    Clusters.SameCluster graph.findCycles.walks u v := by
  obtain ⟨closed, -, hstep, walk, hwalk, hsame⟩ := exists_walk_of_mem_pairs hin hd h
  obtain ⟨hu, hv⟩ := Walk.mem_of_mem_steps hstep
  exact Relation.TransGen.single ⟨walk, hwalk, (hsame u).2 hu, (hsame v).2 hv⟩

section Lawful

variable {settled : Depths.Settled} (hin : graph.EdgesInside) (hd : graph.PathsDistinct)
  (hlawful : Depths.Lawful (Clusters.ofWalks graph.findCycles.walks)
    (graph.without graph.findCycles.pairs).predecessors settled)

include hin hd hlawful

/-- No edge into a module off all cycles is set aside. -/
lemma depthIn_off_cycle (hv : v ∈ settled.map (·.1))
    (hoff : ∀ walk ∈ graph.findCycles.walks, v ∉ walk) :
    Depths.IsMaxOrZero {d | ∃ u, graph.Imports u v ∧ d = Depths.depthIn settled u + 1}
      (Depths.depthIn settled v) := by
  have hnone : Clusters.leaderOf? (Clusters.ofWalks graph.findCycles.walks) v = none := by
    refine Option.not_isSome_iff_eq_none.1 fun hsome => ?_
    obtain ⟨walk, hwalk, hmem⟩ :=
      (Clusters.leaderOf?_isSome_iff (Clusters.partition_ofWalks _)).1 hsome
    exact hoff walk hwalk hmem
  have hsame : ∀ u, u ∈ (graph.without graph.findCycles.pairs).predecessors v ↔
      graph.Imports u v := by
    intro u
    rw [mem_predecessors, imports_without]
    refine and_iff_left fun hpair => ?_
    obtain ⟨walk, hwalk, hmem⟩ :=
      (mem_walk_iff_mem_pair hin hd v).2 ⟨(u, v), hpair, Or.inr rfl⟩
    exact hoff walk hwalk hmem
  rw [(hlawful.depthIn_eq hv).2, Depths.depthOf_of_none hnone]
  simp only [← hsame]
  exact Depths.belowAll_isMaxOrZero _ _

/-- An edge into a cluster from outside is not set aside. -/
lemma depthIn_on_cycle (hv : v ∈ settled.map (·.1))
    (hon : ∃ walk ∈ graph.findCycles.walks, v ∈ walk) :
    Depths.IsMinOrZero {d | ∃ u, graph.Imports u v ∧
      ¬ Clusters.SameCluster graph.findCycles.walks u v ∧ d = Depths.depthIn settled u}
        (Depths.depthIn settled v) := by
  have hpartition := Clusters.partition_ofWalks graph.findCycles.walks
  obtain ⟨leader, hleader⟩ :=
    Option.isSome_iff_exists.1 ((Clusters.leaderOf?_isSome_iff hpartition).2 hon)
  have hsame : ∀ u, u ∈ ((graph.without graph.findCycles.pairs).predecessors v).filter
      (fun i => Clusters.leaderOf? (Clusters.ofWalks graph.findCycles.walks) i != some leader) ↔
        graph.Imports u v ∧ ¬ Clusters.SameCluster graph.findCycles.walks u v := by
    intro u
    rw [mem_filter, mem_predecessors, imports_without, bne_iff_ne, ne_eq,
      Clusters.leaderOf?_eq_iff hpartition hleader]
    constructor
    · rintro ⟨⟨himports, -⟩, hout⟩
      exact ⟨himports, hout⟩
    · rintro ⟨himports, hout⟩
      exact ⟨⟨himports, fun hpair => hout (sameCluster_of_mem_pairs hin hd hpair)⟩, hout⟩
  rw [(hlawful.depthIn_eq hv).2, Depths.depthOf_of_leader hleader]
  simp only [← and_assoc, ← hsame]
  exact Depths.besideNearest_isMinOrZero _ _

end Lawful

/-! ## Chains of imports -/

section Chains

variable {depth : ℕ → ℕ} (hoff : ∀ v < graph.size,
  Depths.IsMaxOrZero {d | ∃ u, graph.Imports u v ∧ d = depth u + 1} (depth v))

include hoff

/-- Depths grow along edges, so no chain is longer than the depth of its end. -/
lemma le_depth_of_chain (hin : graph.EdgesInside) {n : ℕ} (hv : v < graph.size)
    (h : n ∈ graph.chainLengths v) : n ≤ depth v := by
  obtain ⟨chain, hchain, hlast, hlength⟩ := h
  induction chain using reverseRecOn generalizing v n with
  | nil => simp at hlength
  | append_singleton front last ih =>
      obtain rfl : last = v := by simpa using hlast
      cases n with
      | zero => exact Nat.zero_le _
      | succ n =>
          have hfront : front ≠ [] := by
            rintro rfl
            simp at hlength
          have hsome := getLast?_eq_some_getLast hfront
          rw [isChain_append] at hchain
          have himports : graph.Imports (front.getLast hfront) last :=
            hchain.2.2 _ hsome _ rfl
          have hle := ih (himports.lt_size hin).1 hchain.1 hsome (by simpa using hlength)
          have hstep : depth (front.getLast hfront) + 1 ≤ depth last := by
            rcases hoff last hv with ⟨-, hmax⟩ | ⟨hempty, -⟩
            · exact hmax ⟨_, himports, rfl⟩
            · exact absurd hempty (Set.nonempty_iff_ne_empty.1 ⟨_, _, himports, rfl⟩)
          omega

/-- Going back to a deepest importer again and again gives a chain of that length. -/
lemma depth_mem_chainLengths (hin : graph.EdgesInside) (hv : v < graph.size) :
    depth v ∈ graph.chainLengths v := by
  induction hdepth : depth v generalizing v with
  | zero => exact ⟨[v], by simp, by simp, by simp⟩
  | succ n ih =>
      rcases hoff v hv with ⟨⟨u, himports, heq⟩, -⟩ | ⟨-, hzero⟩
      · obtain ⟨chain, hchain, hlast, hlength⟩ := ih (himports.lt_size hin).1 (by omega)
        refine ⟨chain ++ [v], ?_, by simp, by simp [hlength]⟩
        refine isChain_append.2 ⟨hchain, isChain_singleton v, fun x hx y hy => ?_⟩
        obtain rfl : x = u := Option.some.inj (hx.symm.trans hlast)
        obtain rfl : v = y := by simpa using hy
        exact himports
      · omega

end Chains

/-- **Depths follow one rule over all internal edges.** -/
theorem depths_follow_the_law (hin : graph.EdgesInside) (hd : graph.PathsDistinct) :
    ∃ analysis depth, graph.analyze = .ok analysis ∧
      analysis.cycles = graph.findCycles.walks.map (fun walk => ⟨walk.filterMap graph.path?⟩) ∧
      analysis.depths = graph.nodes.mapIdx (fun v node => (node.path, (depth v : ℤ))) ∧
      graph.DepthLaw depth := by
  obtain ⟨analysis, settled, hanalyze, hcycles, hdepths, hlawful, hperm⟩ := exists_analysis hin
  rw [ofPairs_mapIdx hd] at hdepths
  refine ⟨analysis, Depths.depthIn settled, hanalyze, hcycles, hdepths, ?_⟩
  have hmem : ∀ v < graph.size, v ∈ settled.map (·.1) := fun v hv =>
    hperm.mem_iff.2 (mem_range.2 hv)
  have hlength : settled.length = graph.size := by simpa using hperm.length_eq
  refine ⟨fun v hv hoff => depthIn_off_cycle hin hd hlawful (hmem v hv) hoff,
    fun v hv hon => depthIn_on_cycle hin hd hlawful (hmem v hv) hon, fun v hv => ?_,
    fun hacyclic v hv => ?_⟩
  · have hlt := hlawful.depthIn_lt v (hmem v hv)
    omega
  · have hnil := (walks_eq_nil_iff hin hd).2 hacyclic
    have hoff : ∀ w < graph.size, Depths.IsMaxOrZero
        {d | ∃ u, graph.Imports u w ∧ d = Depths.depthIn settled u + 1}
        (Depths.depthIn settled w) :=
      fun w hw => depthIn_off_cycle hin hd hlawful (hmem w hw) (by simp [hnil])
    exact ⟨depth_mem_chainLengths hoff hin hv, fun n hn => le_depth_of_chain hoff hin hv hn⟩

theorem overlappingCycles_follow_the_law :
    overlappingCycles.EdgesInside ∧ overlappingCycles.PathsDistinct ∧
      ∃ analysis depth, overlappingCycles.analyze = .ok analysis ∧
        analysis.cycles = overlappingCycles.findCycles.walks.map
          (fun walk => ⟨walk.filterMap overlappingCycles.path?⟩) ∧
        analysis.depths =
          overlappingCycles.nodes.mapIdx (fun v node => (node.path, (depth v : ℤ))) ∧
        overlappingCycles.DepthLaw depth :=
  ⟨by decide, by decide, depths_follow_the_law (by decide) (by decide)⟩

end RepoAtlas.DependencyGraph
