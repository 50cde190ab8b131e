import RepoAtlas.Proofs.Graph.Sweep

/-!
# The counters of the sweep

`Depths.sweep` looks at no importer again to see which node comes next.  It counts, for every node,
the edges that come from nodes which are not settled, takes away the edges that leave a node when
the node gets its turn, and keeps the nodes whose count has come down to 0.

`Sweep.Tracks` says that counters and ready nodes tell what the plain sweep finds by looking.  A
turn keeps it (`Sweep.Tracks.take`): an edge that is there twice is counted twice and taken away
twice, and no edge that is taken away leads to a node that is settled.  The lowest-numbered ready
node is the first one that the plain sweep comes upon (`Sweep.Tracks.min?_ready`), so both sweeps
settle the same nodes in the same order (`sweep_eq_settle`).
-/

namespace RepoAtlas.Depths

open List

variable {clusters : Clusters} {size : ℕ} {importers imported : ℕ → List ℕ} {settled : Settled}
  {waiting : List Unsettled} {item : Unsettled} {node v : ℕ}

namespace Sweep

variable {sweep : Sweep} {nodes : List ℕ}

/-! ## Taking edges away -/

lemma getD_counts_release (sweep : Sweep) (node v : ℕ) :
    (sweep.release node).counts.getD v 0 =
      if v = node then sweep.counts.getD v 0 - 1 else sweep.counts.getD v 0 := by
  simp only [release, getD_eq_getElem?_getD, getElem?_set]
  by_cases hv : v = node
  · subst hv
    by_cases hlt : v < sweep.counts.length
    · simp [hlt]
    · simp [hlt]
  · simp [hv, Ne.symm hv]

@[simp] lemma settled_release (sweep : Sweep) (node : ℕ) :
    (sweep.release node).settled = sweep.settled := rfl

lemma mem_ready_release : v ∈ (sweep.release node).ready ↔
    v = node ∧ sweep.counts.getD node 0 - 1 = 0 ∨ v ∈ sweep.ready := by
  simp only [release]
  split_ifs with hzero
  · rw [mem_cons, and_iff_left hzero]
  · rw [or_iff_right fun h => hzero h.2]

@[simp] lemma settled_foldl_release (sweep : Sweep) (nodes : List ℕ) :
    (nodes.foldl release sweep).settled = sweep.settled := by
  induction nodes generalizing sweep with
  | nil => rfl
  | cons node more ih => rw [foldl_cons, ih, settled_release]

lemma getD_counts_foldl_release (sweep : Sweep) (nodes : List ℕ) (v : ℕ) :
    (nodes.foldl release sweep).counts.getD v 0 = sweep.counts.getD v 0 - nodes.count v := by
  induction nodes generalizing sweep with
  | nil => simp
  | cons node more ih =>
      rw [foldl_cons, ih, getD_counts_release, count_cons]
      by_cases hv : v = node
      · subst hv
        simp
        omega
      · simp [hv, Ne.symm hv]

@[simp] lemma settled_take (sweep : Sweep) (node : ℕ) :
    (sweep.take clusters importers imported node).settled =
      (node, depthOf clusters sweep.settled ⟨node, importers node⟩) :: sweep.settled :=
  settled_foldl_release _ _

/-- No count is taken below 0. -/
def Covers (sweep : Sweep) (nodes : List ℕ) : Prop :=
  ∀ v, nodes.count v ≤ sweep.counts.getD v 0

lemma Covers.release (h : sweep.Covers (node :: nodes)) : (sweep.release node).Covers nodes := by
  intro v
  have hv := h v
  rw [count_cons] at hv
  rw [getD_counts_release]
  by_cases hnode : v = node
  · subst hnode
    simp at hv ⊢
    omega
  · simpa [hnode, Ne.symm hnode] using hv

/-- A node becomes ready exactly if all edges to it that are counted are taken away. -/
lemma mem_ready_foldl_release (h : sweep.Covers nodes) :
    v ∈ (nodes.foldl release sweep).ready ↔
      v ∈ sweep.ready ∨ v ∈ nodes ∧ sweep.counts.getD v 0 = nodes.count v := by
  induction nodes generalizing sweep with
  | nil => simp
  | cons node more ih =>
      have hcount := h v
      rw [foldl_cons, ih h.release, mem_ready_release, getD_counts_release]
      rw [count_cons] at hcount ⊢
      by_cases hv : v = node
      · subst hv
        rw [if_pos (beq_self_eq_true v)] at hcount ⊢
        have hlast : sweep.counts.getD v 0 - 1 = 0 ∨
            0 < more.count v ∧ sweep.counts.getD v 0 - 1 = more.count v ↔
              sweep.counts.getD v 0 = more.count v + 1 := by omega
        rw [count_pos_iff] at hlast
        rw [if_pos rfl, ← hlast]
        simp only [true_and, mem_cons_self]
        tauto
      · simp [hv, Ne.symm hv]

/-- What is ready has nothing left to be taken away, so no node becomes ready twice. -/
lemma nodup_ready_foldl_release (h : sweep.Covers nodes) (hnodup : sweep.ready.Nodup)
    (hzero : ∀ v ∈ sweep.ready, sweep.counts.getD v 0 = 0) :
    (nodes.foldl release sweep).ready.Nodup := by
  induction nodes generalizing sweep with
  | nil => exact hnodup
  | cons node more ih =>
      have hpos : 0 < sweep.counts.getD node 0 := by
        have hnode := h node
        rw [count_cons_self] at hnode
        omega
      have hfresh : node ∉ sweep.ready := fun hmem => hpos.ne' (hzero node hmem)
      rw [foldl_cons]
      refine ih h.release ?_ fun v hv => ?_
      · simp only [release]
        split_ifs with hcount
        · exact nodup_cons.2 ⟨hfresh, hnodup⟩
        · exact hnodup
      · rw [getD_counts_release]
        rcases mem_ready_release.1 hv with ⟨rfl, hlast⟩ | hv
        · rw [if_pos rfl, hlast]
        · split_ifs
          · rw [hzero v hv]
          · exact hzero v hv

/-! ## What the counters tell -/

/-- How many of the edges from `nodes` come from a node that is not settled. -/
def unsettledIn (settled : Settled) (nodes : List ℕ) : ℕ :=
  nodes.countP fun i => (settled.lookup i).isNone

lemma isReady_iff_unsettledIn :
    isReady settled item = true ↔ unsettledIn settled item.importers = 0 := by
  rw [isReady, all_eq_true, unsettledIn, countP_eq_zero]
  refine forall₂_congr fun i _ => ?_
  cases settled.lookup i <;> simp

/-- Settling a node takes away its edges, as many as there are. -/
lemma unsettledIn_cons (h : node ∉ settled.map (·.1)) (depth : ℕ) (nodes : List ℕ) :
    unsettledIn settled nodes =
      unsettledIn ((node, depth) :: settled) nodes + nodes.count node := by
  have hnode : settled.lookup node = none := by
    rw [lookup_eq_none_iff]
    exact fun entry hentry => by
      simpa using fun heq : node = entry.1 => h (heq ▸ mem_map_of_mem hentry)
  induction nodes with
  | nil => rfl
  | cons i more ih =>
      rw [unsettledIn, unsettledIn, countP_cons, countP_cons, count_cons, ← unsettledIn,
        ← unsettledIn, ih]
      by_cases hi : i = node
      · subst hi
        simp [hnode]
        omega
      · have hne : (i == node) = false := by simpa using hi
        rw [lookup_cons, hne]
        simp only [Bool.false_eq_true, if_false]
        omega

/-- The counters and the ready nodes tell what the plain sweep finds by looking. -/
structure Tracks (sweep : Sweep) (waiting : List Unsettled) : Prop where
  /-- The lowest-numbered nodes wait in front. -/
  ascending : (waiting.map (·.node)).Pairwise (· < ·)
  counts : ∀ item ∈ waiting,
    sweep.counts.getD item.node 0 = unsettledIn sweep.settled item.importers
  ready : ∀ v, v ∈ sweep.ready ↔
    ∃ item ∈ waiting, item.node = v ∧ isReady sweep.settled item = true
  nodup : sweep.ready.Nodup

/-- **The lowest-numbered ready node is the first that the plain sweep comes upon.** -/
lemma Tracks.min?_ready (h : sweep.Tracks waiting) :
    sweep.ready.min? = (waiting.find? (isReady sweep.settled)).map (·.node) := by
  cases hfind : waiting.find? (isReady sweep.settled) with
  | none =>
      have hnone := find?_eq_none.1 hfind
      refine min?_eq_none_iff.2 (eq_nil_iff_forall_not_mem.2 fun v hv => ?_)
      obtain ⟨item, hitem, -, hready⟩ := (h.ready v).1 hv
      exact hnone item hitem hready
  | some item =>
      obtain ⟨hready, before, after, rfl, hbefore⟩ := find?_eq_some_iff_append.1 hfind
      refine min?_eq_some_iff.2 ⟨(h.ready _).2 ⟨item, by simp, rfl, hready⟩, fun v hv => ?_⟩
      obtain ⟨other, hother, rfl, hother'⟩ := (h.ready v).1 hv
      have hascending := h.ascending
      rw [map_append, map_cons, pairwise_append, pairwise_cons] at hascending
      rcases mem_append.1 hother with hother | hother
      · exact absurd hother' (by simpa using hbefore other hother)
      · rcases mem_cons.1 hother with rfl | hother
        · exact le_rfl
        · exact (hascending.2.1.1 _ (mem_map_of_mem hother)).le

/-! ## One turn -/

section Turn

variable (hends : ∀ i j, (imported i).count j = (importers j).count i)

include hends

lemma mem_imported_iff {i j : ℕ} : j ∈ imported i ↔ i ∈ importers j := by
  rw [← count_pos_iff, hends, count_pos_iff]

variable (hsweeping : Sweeping clusters importers sweep.settled waiting) (hitem : item ∈ waiting)

include hsweeping hitem

/-- The count of a node is made up of the edges from the node that is taken and the others. -/
lemma Tracks.getD_counts (h : sweep.Tracks waiting) {other : Unsettled} (hother : other ∈ waiting)
    (depth : ℕ) :
    sweep.counts.getD other.node 0 =
      unsettledIn ((item.node, depth) :: sweep.settled) other.importers +
        (imported item.node).count other.node := by
  have hnew : item.node ∉ sweep.settled.map (·.1) := fun hmem =>
    (nodup_append.1 hsweeping.nodup).2.2 _ hmem _ (mem_map_of_mem hitem) rfl
  rw [h.counts other hother, unsettledIn_cons hnew depth, hends,
    hsweeping.agrees other hother]

variable (hknown : ∀ i, ∀ v ∈ imported i, v ∈ sweep.settled.map (·.1) ++ waiting.map (·.node))

include hknown

/-- The edges of a node that waits lead to nodes that wait. -/
lemma exists_waiting_of_mem_imported (hv : v ∈ imported item.node) :
    ∃ other ∈ waiting, other.node = v := by
  rcases mem_append.1 (hknown _ v hv) with hsettled | hwaiting
  · have hnode := (hsweeping.lawful.depthIn_eq hsettled).1 _ ((mem_imported_iff hends).1 hv)
    exact absurd rfl ((nodup_append.1 hsweeping.nodup).2.2 _ hnode _ (mem_map_of_mem hitem))
  · exact mem_map.1 hwaiting

/-- All edges that leave the node are counted. -/
lemma Tracks.covers (h : sweep.Tracks waiting) (settled : Settled) (ready : List ℕ) :
    Covers ⟨settled, sweep.counts, ready⟩ (imported item.node) := by
  intro v
  by_cases hv : v ∈ imported item.node
  · obtain ⟨other, hother, rfl⟩ := exists_waiting_of_mem_imported hends hsweeping hitem hknown hv
    have hcount := h.getD_counts hends hsweeping hitem hother 0
    exact hcount ▸ Nat.le_add_left _ _
  · rw [count_eq_zero.2 hv]
    exact Nat.zero_le _

/-- After a turn, the nodes are ready that were ready before it, apart from the one whose turn it
was, and those that it alone has kept waiting. -/
lemma Tracks.mem_ready_take (h : sweep.Tracks waiting) :
    v ∈ (sweep.take clusters importers imported item.node).ready ↔
      v ≠ item.node ∧ v ∈ sweep.ready ∨
        v ∈ imported item.node ∧ sweep.counts.getD v 0 = (imported item.node).count v := by
  rw [Sweep.take, mem_ready_foldl_release (h.covers hends hsweeping hitem hknown _ _),
    h.nodup.mem_erase_iff]

/-- **A turn keeps track.** -/
lemma Tracks.take (h : sweep.Tracks waiting) (hready : isReady sweep.settled item = true) :
    (sweep.take clusters importers imported item.node).Tracks (waiting.erase item) := by
  have hdistinct : (waiting.map (·.node)).Nodup := (nodup_append.1 hsweeping.nodup).2.1
  have hwaiting : waiting.Nodup := hdistinct.of_map _
  have hne : ∀ other ∈ waiting, other ≠ item → other.node ≠ item.node := fun other hother hne heq =>
    hne (inj_on_of_nodup_map hdistinct hother hitem heq)
  have hcounts := fun (other : Unsettled) (hother : other ∈ waiting) =>
    h.getD_counts hends hsweeping hitem hother
      (depthOf clusters sweep.settled ⟨item.node, importers item.node⟩)
  constructor
  case ascending => exact h.ascending.sublist (erase_sublist.map _)
  case counts =>
    intro other hother
    rw [settled_take, Sweep.take, getD_counts_foldl_release,
      hcounts other (mem_of_mem_erase hother), Nat.add_sub_cancel]
  case ready =>
    intro v
    rw [settled_take, h.mem_ready_take hends hsweeping hitem hknown]
    constructor
    · rintro (⟨hv, hmem⟩ | ⟨hmem, hlast⟩)
      · obtain ⟨other, hother, rfl, hother'⟩ := (h.ready v).1 hmem
        have hzero := h.counts other hother
        rw [isReady_iff_unsettledIn.1 hother', hcounts other hother] at hzero
        refine ⟨other, (mem_erase_of_ne ?_).2 hother, rfl, isReady_iff_unsettledIn.2 (by omega)⟩
        rintro rfl
        exact hv rfl
      · obtain ⟨other, hother, rfl⟩ :=
          exists_waiting_of_mem_imported hends hsweeping hitem hknown hmem
        rw [hcounts other hother] at hlast
        refine ⟨other, (mem_erase_of_ne ?_).2 hother, rfl, isReady_iff_unsettledIn.2 (by omega)⟩
        rintro rfl
        -- a ready node does not import itself, since it is not settled
        have hself := (mem_imported_iff hends).1 hmem
        rw [← hsweeping.agrees other hother] at hself
        exact (nodup_append.1 hsweeping.nodup).2.2 _ (isReady_iff.1 hready _ hself) _
          (mem_map_of_mem hother) rfl
    · rintro ⟨other, hother, rfl, hother'⟩
      have hmem := mem_of_mem_erase hother
      have hcount := hcounts other hmem
      rw [isReady_iff_unsettledIn.1 hother', Nat.zero_add] at hcount
      by_cases hleft : other.node ∈ imported item.node
      · exact Or.inr ⟨hleft, hcount⟩
      · rw [count_eq_zero.2 hleft, h.counts other hmem] at hcount
        have hdiff : other ≠ item := fun heq => hwaiting.not_mem_erase (heq ▸ hother)
        exact Or.inl ⟨hne other hmem hdiff,
          (h.ready _).2 ⟨other, hmem, rfl, isReady_iff_unsettledIn.2 hcount⟩⟩
  case nodup =>
    refine nodup_ready_foldl_release (h.covers hends hsweeping hitem hknown _ _)
      (h.nodup.erase _) fun v hv => ?_
    obtain ⟨other, hother, rfl, hother'⟩ := (h.ready v).1 (mem_of_mem_erase hv)
    exact (h.counts other hother).trans (isReady_iff_unsettledIn.1 hother')

end Turn

/-! ## A whole sweep -/

/-- As long as the counters keep track, both sweeps take the same nodes. -/
lemma settled_run (hends : ∀ i j, (imported i).count j = (importers j).count i) {turns : ℕ}
    (hknown : ∀ i, ∀ v ∈ imported i, v ∈ sweep.settled.map (·.1) ++ waiting.map (·.node))
    (hsweeping : Sweeping clusters importers sweep.settled waiting) (h : sweep.Tracks waiting)
    (hturns : waiting.length = turns) (hsize : sweep.settled.length + turns = size) :
    settle clusters turns sweep.settled waiting =
      if (run clusters importers imported turns sweep).settled.length = size then
        some (run clusters importers imported turns sweep).settled
      else none := by
  induction turns generalizing sweep waiting with
  | zero =>
      obtain rfl := length_eq_zero_iff.1 hturns
      have hall : (run clusters importers imported 0 sweep).settled.length = size := hsize
      rw [if_pos hall, settle, run]
  | succ turns ih =>
      have hne : waiting ≠ [] := by
        rintro rfl
        simp at hturns
      obtain ⟨first, more, rfl⟩ := exists_cons_of_ne_nil hne
      rw [settle, run, h.min?_ready]
      · cases hfind : (first :: more).find? (isReady sweep.settled) with
        | none =>
            have hshort : sweep.settled.length ≠ size := by omega
            rw [Option.map_none, if_neg hshort]
        | some item =>
            have hitem := mem_of_find?_eq_some hfind
            have hready := find?_some hfind
            have hsettled : (sweep.take clusters importers imported item.node).settled =
                (item.node, depthOf clusters sweep.settled item) :: sweep.settled := by
              rw [settled_take, ← hsweeping.agrees item hitem]
            have hperm := perm_settle hitem sweep.settled (depthOf clusters sweep.settled item)
            have hnext := ih
              (fun i v hv => by
                rw [hsettled]
                exact hperm.mem_iff.2 (hknown i v hv))
              (by
                rw [hsettled]
                exact hsweeping.settle hitem hready)
              (h.take hends hsweeping hitem hknown hready)
              (by rw [length_erase_of_mem hitem, hturns, Nat.add_sub_cancel])
              (by rw [hsettled, length_cons, ← hsize, Nat.add_assoc, Nat.add_comm 1])
            rw [hsettled] at hnext
            exact hnext
      · exact hne

end Sweep

/-- At the start every edge is counted, and the nodes without importers are ready. -/
lemma Sweep.tracks_start (size : ℕ) (importers : ℕ → List ℕ) :
    (Sweep.start size importers).Tracks ((range size).map fun v => ⟨v, importers v⟩) := by
  constructor
  case ascending =>
    rw [map_map]
    exact (map_id (range size)).symm ▸ pairwise_lt_range
  case counts =>
    intro item hitem
    obtain ⟨v, hv, rfl⟩ := mem_map.1 hitem
    rw [mem_range] at hv
    simp [Sweep.start, Sweep.unsettledIn, hv]
  case ready =>
    intro v
    simp only [Sweep.start, mem_filter, mem_range, mem_map, Sweep.isReady_iff_unsettledIn]
    simp [Sweep.unsettledIn]
  case nodup => exact nodup_range.filter _

/-- **Counting edges comes to the same as looking at importers.** -/
lemma sweep_eq_settle (clusters : Clusters)
    (hends : ∀ i j, (imported i).count j = (importers j).count i)
    (hinside : ∀ i j, i ∈ importers j → i < size ∧ j < size) :
    sweep clusters size importers imported =
      settle clusters size [] ((range size).map fun v => ⟨v, importers v⟩) := by
  have hnodes : ((range size).map fun v => (⟨v, importers v⟩ : Unsettled)).map (·.node) =
      range size := by
    rw [map_map]
    exact map_id _
  have hsweeping : Sweeping clusters importers []
      ((range size).map fun v => ⟨v, importers v⟩) := by
    refine ⟨Lawful.nil, ?_, fun item hitem => ?_, fun item hitem i hi => ?_⟩
    · rw [hnodes]
      exact nodup_range
    · obtain ⟨v, -, rfl⟩ := mem_map.1 hitem
      rfl
    · rw [hnodes]
      obtain ⟨v, -, rfl⟩ := mem_map.1 hitem
      exact mem_range.2 (hinside i v hi).1
  have hknown : ∀ i, ∀ v ∈ imported i,
      v ∈ (Sweep.start size importers).settled.map (·.1) ++
        ((range size).map fun v => (⟨v, importers v⟩ : Unsettled)).map (·.node) := by
    intro i v hv
    rw [hnodes]
    exact mem_append_right _ (mem_range.2 (hinside i v ((Sweep.mem_imported_iff hends).1 hv)).2)
  exact (Sweep.settled_run hends hknown hsweeping (Sweep.tracks_start size importers) (by simp)
    (Nat.zero_add size)).symm

end RepoAtlas.Depths
