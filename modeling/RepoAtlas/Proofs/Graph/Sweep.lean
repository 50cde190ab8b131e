import RepoAtlas.Graph.Depths
import RepoAtlas.Proofs.Graph.Acyclicity
import Mathlib.Data.List.Perm.Basic

/-!
# The sweep that settles depths

`Depths.settle` is the sweep without its counters: it looks for the first waiting node whose
importers are all settled.  Two things are shown of it: without cycles it never runs out of ready
nodes (`Sweeping.exists_ready`), and what it leaves is `Lawful`, every depth being computed from
depths that were settled before it (`Sweeping.of_settle`).  The second also says when the sweep gets
stuck: every edge leads from an earlier node to a later one, so a sweep that comes to an end leaves
no room for a cycle (`Lawful.noCycle`).

From then on the order in which nodes were taken is forgotten.  Depths that are settled later change
nothing for the nodes already settled, so in a lawful list every depth satisfies the rule with
respect to the whole list (`Lawful.depthIn_eq`), and the depths stay below the number of nodes
(`Lawful.depthIn_lt`).
-/

namespace RepoAtlas.Depths

open List

variable {clusters : Clusters} {importers : ℕ → List ℕ} {settled : Settled}
  {waiting : List Unsettled} {item : Unsettled} {node i : ℕ}

/-! ## The plain sweep -/

def isReady (settled : Settled) (item : Unsettled) : Bool :=
  item.importers.all fun i => (settled.lookup i).isSome

/-- Settles up to `fuel` nodes; there are depths if none is left. -/
def settle (clusters : Clusters) : (fuel : ℕ) → Settled → List Unsettled → Option Settled
  | _, settled, [] => some settled
  | 0, _, _ :: _ => none
  | fuel + 1, settled, waiting =>
    match waiting.find? (isReady settled) with
    | none => none
    | some item =>
      settle clusters fuel ((item.node, depthOf clusters settled item) :: settled)
        (waiting.erase item)

/-! ## Settled depths -/

/-- The depth that a node was given, or 0. -/
def depthIn (settled : Settled) (node : ℕ) : ℕ := (settled.lookup node).getD 0

lemma isReady_iff : isReady settled item = true ↔ ∀ i ∈ item.importers, i ∈ settled.map (·.1) := by
  rw [isReady, all_eq_true]
  refine forall₂_congr fun i _ => ?_
  rw [lookup_isSome_iff, mem_map]
  constructor
  · rintro ⟨entry, hentry, hi⟩
    exact ⟨entry, hentry, (eq_of_beq hi).symm⟩
  · rintro ⟨entry, hentry, rfl⟩
    exact ⟨entry, hentry, beq_self_eq_true _⟩

lemma depthIn_cons_of_ne {depth : ℕ} (h : i ≠ node) :
    depthIn ((node, depth) :: settled) i = depthIn settled i := by
  have hne : (i == node) = false := by simpa using h
  rw [depthIn, depthIn, lookup_cons, hne]

lemma depthIn_cons_self {depth : ℕ} : depthIn ((node, depth) :: settled) node = depth := by
  rw [depthIn, lookup_cons, beq_self_eq_true]
  rfl

/-! ## The rule -/

/-- The greatest of some numbers, or 0 if there are none. -/
def IsMaxOrZero (numbers : Set ℕ) (n : ℕ) : Prop := IsGreatest numbers n ∨ numbers = ∅ ∧ n = 0

def IsMinOrZero (numbers : Set ℕ) (n : ℕ) : Prop := IsLeast numbers n ∨ numbers = ∅ ∧ n = 0

lemma belowAll_eq (settled : Settled) (nodes : List ℕ) : belowAll settled nodes =
    ((nodes.map fun i => depthIn settled i + 1).max?).getD 0 := rfl

lemma besideNearest_eq (settled : Settled) (nodes : List ℕ) : besideNearest settled nodes =
    ((nodes.map (depthIn settled)).min?).getD 0 := rfl

lemma belowAll_isMaxOrZero (settled : Settled) (nodes : List ℕ) :
    IsMaxOrZero {d | ∃ i ∈ nodes, d = depthIn settled i + 1} (belowAll settled nodes) := by
  rw [belowAll_eq]
  cases hmax : (nodes.map fun i => depthIn settled i + 1).max? with
  | none =>
      obtain rfl := map_eq_nil_iff.1 (max?_eq_none_iff.1 hmax)
      exact Or.inr ⟨by simp, rfl⟩
  | some greatest =>
      obtain ⟨hmem, hle⟩ := max?_eq_some_iff.1 hmax
      obtain ⟨i, hi, rfl⟩ := mem_map.1 hmem
      refine Or.inl ⟨⟨i, hi, rfl⟩, ?_⟩
      rintro d ⟨j, hj, rfl⟩
      exact hle _ (mem_map_of_mem hj)

lemma besideNearest_isMinOrZero (settled : Settled) (nodes : List ℕ) :
    IsMinOrZero {d | ∃ i ∈ nodes, d = depthIn settled i} (besideNearest settled nodes) := by
  rw [besideNearest_eq]
  cases hmin : (nodes.map (depthIn settled)).min? with
  | none =>
      obtain rfl := map_eq_nil_iff.1 (min?_eq_none_iff.1 hmin)
      exact Or.inr ⟨by simp, rfl⟩
  | some least =>
      obtain ⟨hmem, hle⟩ := min?_eq_some_iff.1 hmin
      obtain ⟨i, hi, rfl⟩ := mem_map.1 hmem
      refine Or.inl ⟨⟨i, hi, rfl⟩, ?_⟩
      rintro d ⟨j, hj, rfl⟩
      exact hle _ (mem_map_of_mem hj)

lemma depthOf_of_leader {leader : ℕ}
    (h : Clusters.leaderOf? clusters item.node = some leader) :
    depthOf clusters settled item = besideNearest settled
      (item.importers.filter fun i => Clusters.leaderOf? clusters i != some leader) := by
  rw [depthOf, h]

lemma depthOf_of_none (h : Clusters.leaderOf? clusters item.node = none) :
    depthOf clusters settled item = belowAll settled item.importers := by
  rw [depthOf, h]

lemma depthOf_congr {other : Settled}
    (h : ∀ i ∈ item.importers, depthIn settled i = depthIn other i) :
    depthOf clusters settled item = depthOf clusters other item := by
  cases hleader : Clusters.leaderOf? clusters item.node with
  | none =>
      rw [depthOf_of_none hleader, depthOf_of_none hleader, belowAll_eq, belowAll_eq,
        map_congr_left fun i hi => congrArg (· + 1) (h i hi)]
  | some leader =>
      rw [depthOf_of_leader hleader, depthOf_of_leader hleader, besideNearest_eq, besideNearest_eq,
        map_congr_left fun i hi => h i (mem_filter.1 hi).1]

lemma depthOf_le (h : ∀ i ∈ settled.map (·.1), depthIn settled i < settled.length)
    (hready : ∀ i ∈ item.importers, i ∈ settled.map (·.1)) :
    depthOf clusters settled item ≤ settled.length := by
  cases hleader : Clusters.leaderOf? clusters item.node with
  | none =>
      rw [depthOf_of_none hleader]
      rcases belowAll_isMaxOrZero settled item.importers with ⟨⟨i, hi, heq⟩, -⟩ | ⟨-, heq⟩
      · rw [heq]
        exact h i (hready i hi)
      · rw [heq]
        exact Nat.zero_le _
  | some leader =>
      rw [depthOf_of_leader hleader]
      rcases besideNearest_isMinOrZero settled (item.importers.filter _) with
        ⟨⟨i, hi, heq⟩, -⟩ | ⟨-, heq⟩
      · rw [heq]
        exact (h i (hready i (mem_filter.1 hi).1)).le
      · rw [heq]
        exact Nat.zero_le _

/-! ## Lawful depths -/

/-- Depths in the order in which they were settled, the latest first: each is computed from earlier
ones, and those of all importers are among them. -/
inductive Lawful (clusters : Clusters) (importers : ℕ → List ℕ) : Settled → Prop
  | nil : Lawful clusters importers []
  | settle {node : ℕ} {earlier : Settled} (hnew : node ∉ earlier.map (·.1))
      (hready : ∀ i ∈ importers node, i ∈ earlier.map (·.1))
      (h : Lawful clusters importers earlier) :
      Lawful clusters importers ((node, depthOf clusters earlier ⟨node, importers node⟩) :: earlier)

/-- **Every depth follows the rule.**  It was computed from fewer depths than there are now, but
nothing that came later concerns it. -/
lemma Lawful.depthIn_eq (h : Lawful clusters importers settled) (hnode : node ∈ settled.map (·.1)) :
    (∀ i ∈ importers node, i ∈ settled.map (·.1)) ∧
      depthIn settled node = depthOf clusters settled ⟨node, importers node⟩ := by
  induction h with
  | nil => simp at hnode
  | @settle latest earlier hnew hready _ ih =>
      have hsame : ∀ v, (∀ i ∈ importers v, i ∈ earlier.map (·.1)) → ∀ depth,
          depthOf clusters earlier ⟨v, importers v⟩ =
            depthOf clusters ((latest, depth) :: earlier) ⟨v, importers v⟩ := by
        intro v hv depth
        refine depthOf_congr fun i hi => (depthIn_cons_of_ne ?_).symm
        rintro rfl
        exact hnew (hv _ hi)
      rcases mem_cons.1 hnode with rfl | hnode'
      · refine ⟨fun i hi => mem_cons_of_mem _ (hready i hi), ?_⟩
        rw [depthIn_cons_self]
        exact hsame _ hready _
      · obtain ⟨hin, hdepth⟩ := ih hnode'
        have hne : node ≠ latest := fun heq => hnew (heq ▸ hnode')
        refine ⟨fun i hi => mem_cons_of_mem _ (hin i hi), ?_⟩
        rw [depthIn_cons_of_ne hne, hdepth]
        exact hsame _ hin _

/-- **Depths stay below the number of nodes.** -/
lemma Lawful.depthIn_lt (h : Lawful clusters importers settled) :
    ∀ i ∈ settled.map (·.1), depthIn settled i < settled.length := by
  induction h with
  | nil => simp
  | @settle latest earlier hnew hready _ ih =>
      intro i hi
      rcases mem_cons.1 hi with rfl | hi'
      · rw [depthIn_cons_self]
        exact Nat.lt_succ_of_le (depthOf_le ih hready)
      · have hne : i ≠ latest := fun heq => hnew (heq ▸ hi')
        rw [depthIn_cons_of_ne hne]
        exact Nat.lt_succ_of_lt (ih i hi')

/-! ## The sweep -/

/-- What holds between two steps of the sweep. -/
structure Sweeping (clusters : Clusters) (importers : ℕ → List ℕ) (settled : Settled)
    (waiting : List Unsettled) : Prop where
  lawful : Lawful clusters importers settled
  /-- No node is there twice. -/
  nodup : (settled.map (·.1) ++ waiting.map (·.node)).Nodup
  agrees : ∀ item ∈ waiting, item.importers = importers item.node
  /-- Every importer is settled or still waiting. -/
  known : ∀ item ∈ waiting, ∀ i ∈ item.importers, i ∈ settled.map (·.1) ++ waiting.map (·.node)

lemma perm_settle (h : item ∈ waiting) (settled : Settled) (depth : ℕ) :
    ((item.node, depth) :: settled).map (·.1) ++ (waiting.erase item).map (·.node) ~
      settled.map (·.1) ++ waiting.map (·.node) := by
  have hmoved : waiting.map (·.node) ~ item.node :: (waiting.erase item).map (·.node) :=
    (perm_cons_erase h).map (·.node)
  exact perm_middle.symm.trans (hmoved.symm.append_left _)

/-- **Settling a ready node keeps the sweep going.** -/
lemma Sweeping.settle (h : Sweeping clusters importers settled waiting) (hitem : item ∈ waiting)
    (hready : isReady settled item = true) :
    Sweeping clusters importers ((item.node, depthOf clusters settled item) :: settled)
      (waiting.erase item) := by
  have hperm := perm_settle hitem settled (depthOf clusters settled item)
  have hagrees := h.agrees item hitem
  have hnew : item.node ∉ settled.map (·.1) := fun hmem =>
    (nodup_append.1 h.nodup).2.2 _ hmem _ (mem_map_of_mem hitem) rfl
  refine ⟨?_, hperm.nodup_iff.2 h.nodup, fun other hother => ?_, fun other hother i hi => ?_⟩
  · have hdepth : depthOf clusters settled item =
        depthOf clusters settled ⟨item.node, importers item.node⟩ := by rw [← hagrees]
    rw [hdepth]
    exact Lawful.settle hnew (hagrees ▸ isReady_iff.1 hready) h.lawful
  · exact h.agrees other (mem_of_mem_erase hother)
  · exact hperm.mem_iff.2 (h.known other (mem_of_mem_erase hother) i hi)

/-- **Without cycles some waiting node is ready.**  It is one that no waiting node imports. -/
lemma Sweeping.exists_ready (h : Sweeping clusters importers settled waiting)
    (hacyclic : NoCycle fun i j => i ∈ importers j) (hne : waiting ≠ []) :
    ∃ item ∈ waiting, isReady settled item = true := by
  have hnodes : waiting.map (·.node) ≠ [] := fun hnil => hne (map_eq_nil_iff.1 hnil)
  obtain ⟨v, hv, hsource⟩ := hacyclic.exists_source hnodes
  obtain ⟨item, hitem, rfl⟩ := mem_map.1 hv
  refine ⟨item, hitem, isReady_iff.2 fun i hi => ?_⟩
  rcases mem_append.1 (h.known item hitem i hi) with hi' | hi'
  · exact hi'
  · exact absurd (h.agrees item hitem ▸ hi) (hsource i hi')

/-- **Whatever the sweep settles, it settles lawfully**, and it settles every node. -/
lemma Sweeping.of_settle {fuel : ℕ} {result : Settled}
    (h : Sweeping clusters importers settled waiting)
    (hresult : Depths.settle clusters fuel settled waiting = some result) :
    Lawful clusters importers result ∧
      result.map (·.1) ~ settled.map (·.1) ++ waiting.map (·.node) := by
  fun_induction Depths.settle clusters fuel settled waiting with
  | case1 =>
      cases hresult
      exact ⟨h.lawful, by simp⟩
  | case2 => cases hresult
  | case3 => cases hresult
  | case4 fuel settled waiting hnil item hfind ih =>
      have hitem := mem_of_find?_eq_some hfind
      obtain ⟨hlawful, hperm⟩ := ih (h.settle hitem (find?_some hfind)) hresult
      exact ⟨hlawful, hperm.trans (perm_settle hitem _ _)⟩

/-- **Without cycles the sweep settles every node, lawfully.** -/
lemma Sweeping.settles (hacyclic : NoCycle fun i j => i ∈ importers j) {fuel : ℕ}
    (h : Sweeping clusters importers settled waiting) (hfuel : waiting.length ≤ fuel) :
    ∃ result, Depths.settle clusters fuel settled waiting = some result ∧
      Lawful clusters importers result ∧
        result.map (·.1) ~ settled.map (·.1) ++ waiting.map (·.node) := by
  have hsome : (Depths.settle clusters fuel settled waiting).isSome := by
    fun_induction Depths.settle clusters fuel settled waiting with
    | case1 => rfl
    | case2 => simp at hfuel
    | case3 fuel settled waiting hnil hfind =>
        have hnone : ¬ (waiting.find? (isReady settled)).isSome := by simp [hfind]
        exact absurd (find?_isSome.2 (h.exists_ready hacyclic hnil)) hnone
    | case4 fuel settled waiting hnil item hfind ih =>
        have hitem := mem_of_find?_eq_some hfind
        refine ih (h.settle hitem (find?_some hfind)) ?_
        rw [length_erase_of_mem hitem]
        omega
  obtain ⟨result, hresult⟩ := Option.isSome_iff_exists.1 hsome
  exact ⟨result, hresult, h.of_settle hresult⟩

/-! ## The order of the sweep -/

/-- The importers of a node were settled before it, so they stand further down. -/
lemma Lawful.idxOf_lt (h : Lawful clusters importers settled) (hnode : node ∈ settled.map (·.1))
    (hi : i ∈ importers node) :
    (settled.map (·.1)).idxOf node < (settled.map (·.1)).idxOf i := by
  induction h with
  | nil => simp at hnode
  | @settle latest earlier hnew hready hearlier ih =>
      have hne : ∀ v ∈ earlier.map (·.1), latest ≠ v := by
        intro v hv heq
        exact hnew (heq ▸ hv)
      rw [map_cons]
      rcases mem_cons.1 hnode with rfl | hnode'
      · rw [idxOf_cons_self, idxOf_cons_ne _ (hne i (hready i hi))]
        exact Nat.succ_pos _
      · have hi' := (hearlier.depthIn_eq hnode').1 i hi
        rw [idxOf_cons_ne _ (hne node hnode'), idxOf_cons_ne _ (hne i hi')]
        exact Nat.succ_lt_succ (ih hnode')

/-- **Where depths are lawful there is no cycle.**  Along every edge the sweep came later. -/
lemma Lawful.noCycle (h : Lawful clusters importers settled)
    (hall : ∀ node, ∀ i ∈ importers node, node ∈ settled.map (·.1)) :
    NoCycle fun i j => i ∈ importers j := by
  refine noCycle_of_rank (fun v => settled.length - (settled.map (·.1)).idxOf v) ?_
  intro i node hi
  have hnode := hall node i hi
  have hlt := h.idxOf_lt hnode hi
  have hle : (settled.map (·.1)).idxOf i < (settled.map (·.1)).length :=
    idxOf_lt_length_iff.2 ((h.depthIn_eq hnode).1 i hi)
  rw [length_map] at hle
  omega

end RepoAtlas.Depths
