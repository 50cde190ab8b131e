import RepoAtlas.Proofs.Graph.Search

/-!
# What the report on cycles says

The report of a graph is read off the search at rest.  Its pairs meet every cycle
(`isAcyclic_without_pairs`), because an edge that is not collected leads down the finishing order.
From that alone, without following the search again, every self-import and every strongly connected
component is seen to be reported: a cycle inside it runs through a collected edge, the closed walk
through that edge stays inside it, and a walk with the same key is in the report.

`CyclesReported` puts together what the report promises its readers, and
`cycles_soundly_and_completely_reported` is that promise.
-/

namespace RepoAtlas.DependencyGraph

open List Relation

variable {graph : DependencyGraph String}

/-! ## The arena of a graph -/

lemma arena_edge {i j : ℕ} : graph.arena.Edge i j ↔ graph.Imports i j := mem_successors

lemma arena_edge_eq : graph.arena.Edge = graph.Imports :=
  funext fun _ => funext fun _ => propext arena_edge

lemma arena_isClosed (hin : graph.EdgesInside) : graph.arena.IsClosed :=
  fun _ _ h => (arena_edge.1 h).lt_size hin

lemma path?_eq_getElem? (graph : DependencyGraph String) (i : ℕ) :
    graph.path? i = (graph.nodes.map (·.path))[i]? := by
  rw [path?, getElem?_map]

lemma path?_isSome {i : ℕ} (hi : i < graph.size) : (graph.path? i).isSome := by
  rw [path?_eq_getElem?, isSome_getElem?, length_map]
  exact hi

lemma arena_name_inj (hd : graph.PathsDistinct) {i j : ℕ} (hi : i < graph.size)
    (hj : j < graph.size) (h : graph.arena.name i = graph.arena.name j) : i = j := by
  obtain ⟨p, hp⟩ := Option.isSome_iff_exists.1 (path?_isSome hi)
  obtain ⟨q, hq⟩ := Option.isSome_iff_exists.1 (path?_isSome hj)
  have hpq : p = q := by
    simp only [arena, hp, hq, Option.getD_some] at h
    exact h
  refine (getElem?_inj (by rw [length_map]; exact hi) hd).1 ?_
  rw [← path?_eq_getElem?, ← path?_eq_getElem?, hp, hq, hpq]

/-! ## The pairs -/

lemma mem_findCycles_pairs {pair : ℕ × ℕ} :
    pair ∈ graph.findCycles.pairs ↔ pair ∈ (Search.all graph.arena).pairs := by
  simp [findCycles]

/-- The place of a node among the finished ones, of which the last comes first. -/
def finishRank (graph : DependencyGraph String) (i : ℕ) : ℕ :=
  (Search.all graph.arena).finished.idxOf i

lemma mem_pairs_or_finishRank_lt (hin : graph.EdgesInside) {i j : ℕ} (h : graph.Imports i j) :
    (i, j) ∈ graph.findCycles.pairs ∨ graph.finishRank i < graph.finishRank j := by
  have hrest := Search.resting_all (arena_isClosed hin)
  have hdone := Search.mem_finished_all (arena_isClosed hin) (h.lt_size hin).1
  have hnodup : (Search.all graph.arena).finished.Nodup := hrest.order_eq ▸ hrest.nodup
  rcases hrest.finished i hdone j (arena_edge.2 h) with hpair | hbefore
  · exact Or.inl (mem_findCycles_pairs.2 hpair)
  · exact Or.inr (idxOf_lt_of_pair_sublist (hrest.order_eq ▸ hbefore) hnodup)

/-- **The pairs meet every cycle.**  What is not collected follows the finishing order. -/
lemma isAcyclic_without_pairs (hin : graph.EdgesInside) :
    (graph.without graph.findCycles.pairs).IsAcyclic := by
  refine noCycle_of_rank graph.finishRank fun i j h => ?_
  obtain ⟨himports, hpair⟩ := imports_without.1 h
  rcases mem_pairs_or_finishRank_lt hin himports with h | h
  · exact absurd h hpair
  · exact h

/-! ## The walks -/

lemma isClosed_of_mem_walks (hin : graph.EdgesInside) {walk : List ℕ}
    (h : walk ∈ graph.findCycles.walks) : Walk.IsClosed graph.Imports walk :=
  arena_edge_eq ▸ (Search.resting_all (arena_isClosed hin)).closed walk h

lemma lt_size_of_mem_closed (hin : graph.EdgesInside) {walk : List ℕ}
    (h : Walk.IsClosed graph.Imports walk) {x : ℕ} (hx : x ∈ walk) : x < graph.size := by
  obtain ⟨⟨i, j⟩, hij, hx⟩ := (Walk.mem_iff_exists_mem_steps h.two_le_length).1 hx
  have himports : graph.Imports i j := Walk.rel_of_mem_steps h.along hij
  rcases hx with rfl | rfl
  · exact (himports.lt_size hin).1
  · exact (himports.lt_size hin).2

/-- **A collected edge is on a reported walk's nodes.**  The walk that brought it in may have been
left out of the report, but then one with the same nodes is there. -/
lemma exists_walk_of_mem_pairs (hin : graph.EdgesInside) (hd : graph.PathsDistinct) {i j : ℕ}
    (h : (i, j) ∈ graph.findCycles.pairs) :
    ∃ closed, Walk.IsClosed graph.Imports closed ∧ (i, j) ∈ Walk.steps closed ∧
      ∃ walk ∈ graph.findCycles.walks, ∀ x, x ∈ walk ↔ x ∈ closed := by
  have hrest := Search.resting_all (arena_isClosed hin)
  obtain ⟨closed, hclosed, hstep, walk, hwalk, hkey⟩ :=
    hrest.covered (i, j) (mem_findCycles_pairs.1 h)
  rw [arena_edge_eq] at hclosed
  have hwalk' := isClosed_of_mem_walks hin hwalk
  refine ⟨closed, hclosed, hstep, walk, hwalk, fun x => ?_⟩
  rw [← hwalk'.mem_dropLast, ← hclosed.mem_dropLast]
  refine Walk.mem_iff_of_key_eq (fun _ _ hi hj => arena_name_inj hd hi hj) ?_ ?_ hkey x
  · exact fun y hy => lt_size_of_mem_closed hin hwalk' (hwalk'.mem_dropLast.1 hy)
  · exact fun y hy => lt_size_of_mem_closed hin hclosed (hclosed.mem_dropLast.1 hy)

/-- Nodes that import each other, directly or through others, in both directions. -/
def SameComponent (graph : DependencyGraph String) (i j : ℕ) : Prop :=
  ReflTransGen graph.Imports i j ∧ ReflTransGen graph.Imports j i

/-- Around every cycle there is a reported walk inside its component. -/
lemma exists_walk_in_component (hin : graph.EdgesInside) (hd : graph.PathsDistinct) {v : ℕ}
    (h : TransGen graph.Imports v v) :
    ∃ walk ∈ graph.findCycles.walks, ∀ x ∈ walk, graph.SameComponent v x := by
  rcases transGen_avoids_or_meets (fun i j => (i, j) ∈ graph.findCycles.pairs) h with h | h
  · refine absurd (TransGen.mono (fun i j hij => ?_) _ _ h) (isAcyclic_without_pairs hin v)
    exact imports_without.2 hij
  · obtain ⟨i, j, -, hpair, hvi, hjv⟩ := h
    obtain ⟨closed, hclosed, hstep, walk, hwalk, hsame⟩ := exists_walk_of_mem_pairs hin hd hpair
    obtain ⟨hi, hj⟩ := Walk.mem_of_mem_steps hstep
    refine ⟨walk, hwalk, fun x hx => ?_⟩
    have hx' := (hsame x).1 hx
    exact ⟨hvi.trans (hclosed.leads hi hx'), (hclosed.leads hx' hj).trans hjv⟩

lemma loop_mem_walks (hin : graph.EdgesInside) (hd : graph.PathsDistinct) {v : ℕ}
    (h : graph.Imports v v) : [v, v] ∈ graph.findCycles.walks := by
  rcases mem_pairs_or_finishRank_lt hin h with hpair | hbefore
  · obtain ⟨closed, hclosed, hstep, walk, hwalk, hsame⟩ := exists_walk_of_mem_pairs hin hd hpair
    rw [hclosed.eq_of_loop hstep] at hsame
    have hall : ∀ x ∈ walk, x = v := fun x hx => by simpa using (hsame x).1 hx
    exact (isClosed_of_mem_walks hin hwalk).eq_of_forall hall ▸ hwalk
  · exact absurd hbefore (lt_irrefl _)

/-! ## The report -/

/-- What the report on the cycles of a graph promises. -/
structure CyclesReported (graph : DependencyGraph String) : Prop where
  /-- A walk ends where it began, visits no other node twice, and follows internal edges. -/
  closed : ∀ walk ∈ graph.findCycles.walks, Walk.IsClosed graph.Imports walk
  /-- No two walks are the same up to rotation or reversal. -/
  distinct : graph.findCycles.walks.Pairwise fun a b => ¬ Walk.IsVariant a.dropLast b.dropLast
  /-- Every self-import is a walk. -/
  loops : ∀ v, graph.Imports v v → [v, v] ∈ graph.findCycles.walks
  /-- Every strongly connected component of two or more nodes contains a walk. -/
  components : ∀ u v, u ≠ v → graph.SameComponent u v →
    ∃ walk ∈ graph.findCycles.walks, ∀ x ∈ walk, graph.SameComponent u x
  /-- There are no walks exactly if there are no cycles. -/
  none_iff : graph.findCycles.walks = [] ↔ graph.IsAcyclic
  /-- The nodes on walks are the ends of the pairs. -/
  nodes_iff : ∀ x, (∃ walk ∈ graph.findCycles.walks, x ∈ walk) ↔
    ∃ pair ∈ graph.findCycles.pairs, x = pair.1 ∨ x = pair.2

lemma walks_distinct (hin : graph.EdgesInside) :
    graph.findCycles.walks.Pairwise fun a b => ¬ Walk.IsVariant a.dropLast b.dropLast := by
  refine (Search.resting_all (arena_isClosed hin)).distinct.imp fun hkey hvariant => hkey ?_
  exact Walk.canonical_eq_iff.2 (hvariant.map _)

lemma exists_walk_of_sameComponent (hin : graph.EdgesInside) (hd : graph.PathsDistinct) {u v : ℕ}
    (hne : u ≠ v) (h : graph.SameComponent u v) :
    ∃ walk ∈ graph.findCycles.walks, ∀ x ∈ walk, graph.SameComponent u x := by
  rcases reflTransGen_iff_eq_or_transGen.1 h.1 with heq | huv
  · exact absurd heq.symm hne
  · exact exists_walk_in_component hin hd (huv.trans_left h.2)

lemma walks_eq_nil_iff (hin : graph.EdgesInside) (hd : graph.PathsDistinct) :
    graph.findCycles.walks = [] ↔ graph.IsAcyclic := by
  constructor
  · intro hnil v hv
    obtain ⟨walk, hwalk, -⟩ := exists_walk_in_component hin hd hv
    rw [hnil] at hwalk
    exact not_mem_nil hwalk
  · intro hacyclic
    refine eq_nil_iff_forall_not_mem.2 fun walk hwalk => ?_
    obtain ⟨v, hv⟩ := (isClosed_of_mem_walks hin hwalk).transGen
    exact hacyclic v hv

lemma mem_walk_iff_mem_pair (hin : graph.EdgesInside) (hd : graph.PathsDistinct) (x : ℕ) :
    (∃ walk ∈ graph.findCycles.walks, x ∈ walk) ↔
      ∃ pair ∈ graph.findCycles.pairs, x = pair.1 ∨ x = pair.2 := by
  constructor
  · rintro ⟨walk, hwalk, hx⟩
    have hlength := (isClosed_of_mem_walks hin hwalk).two_le_length
    obtain ⟨pair, hpair, hend⟩ := (Walk.mem_iff_exists_mem_steps hlength).1 hx
    have hcollected := (Search.resting_all (arena_isClosed hin)).collected walk hwalk pair hpair
    exact ⟨pair, mem_findCycles_pairs.2 hcollected, hend⟩
  · rintro ⟨⟨i, j⟩, hpair, hend⟩
    obtain ⟨closed, -, hstep, walk, hwalk, hsame⟩ := exists_walk_of_mem_pairs hin hd hpair
    obtain ⟨hi, hj⟩ := Walk.mem_of_mem_steps hstep
    refine ⟨walk, hwalk, (hsame x).2 ?_⟩
    rcases hend with rfl | rfl
    · exact hi
    · exact hj

/-- **The report on cycles is sound and complete.** -/
theorem cycles_soundly_and_completely_reported (hin : graph.EdgesInside)
    (hd : graph.PathsDistinct) : graph.CyclesReported where
  closed _ hwalk := isClosed_of_mem_walks hin hwalk
  distinct := walks_distinct hin
  loops _ hloop := loop_mem_walks hin hd hloop
  components _ _ hne hsame := exists_walk_of_sameComponent hin hd hne hsame
  none_iff := walks_eq_nil_iff hin hd
  nodes_iff := mem_walk_iff_mem_pair hin hd

/-- A module at the top, two cycles that share a module, and a module that both lead to. -/
def overlappingCycles : DependencyGraph String where
  nodes := ["cli.js", "core.js", "events.js", "log.js"].map fun path => ⟨path, .javaScript⟩
  edges := [(0, 1), (1, 2), (2, 1), (2, 2), (2, 3), (1, 3)].map fun (source, target) =>
    ⟨source, .internal, "", 1, some target, none⟩

theorem overlappingCycles_reported :
    overlappingCycles.EdgesInside ∧ overlappingCycles.PathsDistinct ∧
      overlappingCycles.CyclesReported :=
  ⟨by decide, by decide, cycles_soundly_and_completely_reported (by decide) (by decide)⟩

/-! ## What cycles are called -/

/-- The names of some nodes are their paths. -/
lemma map_some_names {members : List ℕ} (h : ∀ i ∈ members, i < graph.size) :
    (members.map graph.arena.name).map some = members.map graph.path? := by
  rw [List.map_map]
  refine map_congr_left fun i hi => ?_
  obtain ⟨path, hpath⟩ := Option.isSome_iff_exists.1 (path?_isSome (h i hi))
  simp [arena, hpath]

/-- **Cycles are told apart by their names.**  The keys of two lists of nodes are the same exactly
if one list is a rotation of the other or of its reversal, and the key consists of the paths of the
nodes in such an order. -/
theorem cycles_are_told_apart_by_their_names (hd : graph.PathsDistinct) {xs ys : List ℕ}
    (hxs : ∀ i ∈ xs, i < graph.size) (hys : ∀ i ∈ ys, i < graph.size) :
    (Walk.canonical (xs.map graph.arena.name) = Walk.canonical (ys.map graph.arena.name) ↔
      ys ~r xs ∨ ys ~r xs.reverse) ∧
    ∃ zs, (zs ~r xs ∨ zs ~r xs.reverse) ∧
      (Walk.canonical (xs.map graph.arena.name)).map some = zs.map graph.path? := by
  constructor
  · rw [Walk.canonical_eq_iff]
    constructor
    · intro h
      have hinj : Set.InjOn graph.arena.name {i | i < graph.size} :=
        fun i hi j hj hname => arena_name_inj hd hi hj hname
      have hback := hinj.leftInvOn_invFunOn
      exact h.of_map (fun i hi => hback (hxs i hi)) fun i hi => hback (hys i hi)
    · intro h
      exact Walk.IsVariant.map h _
  · obtain ⟨zs, hzs, hkey⟩ := (Walk.isVariant_canonical (xs.map graph.arena.name)).exists_map_eq
    refine ⟨zs, hzs, ?_⟩
    rw [hkey, map_some_names fun i hi => hxs i (hzs.perm.mem_iff.1 hi)]

theorem overlappingCycles_are_told_apart_by_names :
    overlappingCycles.PathsDistinct ∧
      Walk.canonical ([1, 2, 3].map overlappingCycles.arena.name) =
        Walk.canonical ([2, 1, 3].map overlappingCycles.arena.name) ∧
      Walk.canonical ([1, 2, 1, 3].map overlappingCycles.arena.name) ≠
        Walk.canonical ([1, 1, 2, 3].map overlappingCycles.arena.name) ∧
      ∃ zs, (zs ~r [2, 1, 3] ∨ zs ~r [3, 1, 2]) ∧
        (Walk.canonical ([2, 1, 3].map overlappingCycles.arena.name)).map some =
          zs.map overlappingCycles.path? := by
  have hd : overlappingCycles.PathsDistinct := by decide
  refine ⟨hd, ?_, fun hsame => ?_, ?_⟩
  · exact (cycles_are_told_apart_by_their_names hd (by decide) (by decide)).1.2 (by decide)
  · have hturned := (cycles_are_told_apart_by_their_names hd (by decide) (by decide)).1.1 hsame
    exact absurd hturned (by decide)
  · have hnodes : ∀ i ∈ [2, 1, 3], i < overlappingCycles.size := by decide
    exact (cycles_are_told_apart_by_their_names hd hnodes hnodes).2

end RepoAtlas.DependencyGraph
