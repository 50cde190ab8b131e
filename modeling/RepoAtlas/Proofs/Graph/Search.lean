import RepoAtlas.Proofs.Graph.ClosedWalk

/-!
# What the depth-first search maintains

The search keeps three promises at every step, and every result about cycles is read off them when
it ends.

* `Search.Ordered` — the path from the root to the current node follows edges, and it and the
  finished nodes together list every visited node once.  This list, `Search.order`, is a
  finishing order in reverse: a node only ever moves from the end of the path to the front of the
  finished nodes, which leaves the list as it is.
* `Search.LookedAt` — every edge that has been looked at is either collected or leads to a node
  further down in that order.
* `Search.Reported` — every collected edge lies on a closed walk, and of each closed walk one with
  the same key is reported, once.

`Search.Move` lists what a step can do, so that each promise is checked once per kind of move, and
`Search.resting_all` and `Search.mem_finished_all` say what is left at the end: the promises hold,
and all nodes are finished.
-/

namespace RepoAtlas.Search

open List

def Arena.Edge (arena : Arena) (i j : ℕ) : Prop := j ∈ arena.successors i

/-- No edge leaves the arena. -/
def Arena.IsClosed (arena : Arena) : Prop :=
  ∀ i j, arena.Edge i j → i < arena.size ∧ j < arena.size

variable {arena : Arena} {s t : Search}

/-! ## Moves -/

/-- What a step does: it finishes a node that has no edges left, or it takes up the next edge of the
current node, which leads nowhere new, back to the path, or to an unvisited node. -/
inductive Move (arena : Arena) : Search → Search → Prop where
  | finish (node : ℕ) (outer : List SearchFrame) (done : List ℕ) (walks : List (List ℕ))
      (pairs : List (ℕ × ℕ)) :
      Move arena ⟨⟨node, []⟩ :: outer, done, walks, pairs⟩ ⟨outer, node :: done, walks, pairs⟩
  | pass (node target : ℕ) (more : List ℕ) (outer : List SearchFrame) (done : List ℕ)
      (walks : List (List ℕ)) (pairs : List (ℕ × ℕ))
      (h : target ∈ done ∨ arena.size ≤ target) :
      Move arena ⟨⟨node, target :: more⟩ :: outer, done, walks, pairs⟩
        ⟨⟨node, more⟩ :: outer, done, walks, pairs⟩
  | close (node target : ℕ) (more : List ℕ) (outer : List SearchFrame) (done : List ℕ)
      (walks : List (List ℕ)) (pairs : List (ℕ × ℕ))
      (h : target ∈ trail ⟨⟨node, more⟩ :: outer, done, walks, pairs⟩) :
      Move arena ⟨⟨node, target :: more⟩ :: outer, done, walks, pairs⟩
        (close arena (closedWalk ⟨⟨node, more⟩ :: outer, done, walks, pairs⟩ target)
          ⟨⟨node, more⟩ :: outer, done, walks, pairs⟩)
  | enter (node target : ℕ) (more : List ℕ) (outer : List SearchFrame) (done : List ℕ)
      (walks : List (List ℕ)) (pairs : List (ℕ × ℕ)) (hlt : target < arena.size)
      (h : target ∉ trail ⟨⟨node, more⟩ :: outer, done, walks, pairs⟩ ++ done) :
      Move arena ⟨⟨node, target :: more⟩ :: outer, done, walks, pairs⟩
        (enter arena target ⟨⟨node, more⟩ :: outer, done, walks, pairs⟩)

lemma any_node_iff {path : List SearchFrame} {done : List ℕ} {walks : List (List ℕ)}
    {pairs : List (ℕ × ℕ)} {v : ℕ} :
    path.any (·.node == v) = true ↔ v ∈ trail ⟨path, done, walks, pairs⟩ := by
  simp [trail]

lemma move_step (busy : s.path ≠ []) : Move arena s (step arena s) := by
  obtain ⟨path, done, walks, pairs⟩ := s
  cases path with
  | nil => exact absurd rfl busy
  | cons frame outer =>
      obtain ⟨node, targets⟩ := frame
      cases targets with
      | nil => exact Move.finish node outer done walks pairs
      | cons target more =>
          simp only [step]
          split_ifs with hpath hdone
          · exact Move.close node target more outer done walks pairs (any_node_iff.1 hpath)
          · refine Move.pass node target more outer done walks pairs ?_
            simpa using hdone
          · simp only [Bool.or_eq_true, contains_iff_mem, decide_eq_true_eq, not_or,
              not_le] at hdone
            refine Move.enter node target more outer done walks pairs hdone.2 ?_
            rw [mem_append, not_or]
            exact ⟨fun h => hpath (any_node_iff.2 h), hdone.1⟩

/-! ## Runs -/

lemma run_induction {P : Search → Prop} (hstep : ∀ s, s.path ≠ [] → P s → P (step arena s)) :
    ∀ s, P s → P (run arena s) := by
  intro s
  fun_induction run arena s with
  | case1 s hidle => exact id
  | case2 s hbusy ih => exact fun h => ih (hstep s hbusy h)

@[simp] lemma path_run (s : Search) : (run arena s).path = [] := by
  fun_induction run arena s with
  | case1 s hidle => exact hidle
  | case2 s hbusy ih => exact ih

/-! ## The order of the nodes -/

/-- The visited nodes: those on the path from the root on, then the finished ones, the latest
first. -/
def order (s : Search) : List ℕ := s.trail ++ s.finished

lemma isVisited_iff {v : ℕ} : s.isVisited v = true ↔ v ∈ s.order := by
  simp [isVisited, order, trail]

lemma trail_cons (node : ℕ) (targets : List ℕ) (outer : List SearchFrame) (done : List ℕ)
    (walks : List (List ℕ)) (pairs : List (ℕ × ℕ)) :
    trail ⟨⟨node, targets⟩ :: outer, done, walks, pairs⟩ =
      trail ⟨outer, done, walks, pairs⟩ ++ [node] := by
  simp [trail]

lemma trail_enter (target : ℕ) : (enter arena target s).trail = s.trail ++ [target] := by
  simp [trail, enter]

lemma order_enter (target : ℕ) :
    (enter arena target s).order = s.trail ++ target :: s.finished := by
  rw [order, trail_enter, append_assoc]
  rfl

lemma order_sublist_enter (target : ℕ) : s.order <+ (enter arena target s).order := by
  rw [order_enter]
  exact (Sublist.refl _).append (sublist_cons_self _ _)

/-- Finishing the current node moves it, but not in the order. -/
lemma order_finish (node : ℕ) (outer : List SearchFrame) (done : List ℕ) (walks : List (List ℕ))
    (pairs : List (ℕ × ℕ)) :
    order ⟨⟨node, []⟩ :: outer, done, walks, pairs⟩ =
      order ⟨outer, node :: done, walks, pairs⟩ := by
  simp [order, trail]

/-- The path follows edges, and no node is visited twice. -/
structure Ordered (arena : Arena) (s : Search) : Prop where
  nodup : s.order.Nodup
  inside : ∀ v ∈ s.order, v < arena.size
  linked : s.trail.IsChain arena.Edge

lemma Ordered.enter (h : Ordered arena s) {target : ℕ} (hnew : target ∉ s.order)
    (hlt : target < arena.size) (hedge : ∀ v ∈ s.trail.getLast?, arena.Edge v target) :
    Ordered arena (enter arena target s) := by
  have hperm : (Search.enter arena target s).order.Perm (target :: s.order) := by
    rw [order_enter]
    exact perm_middle
  refine ⟨hperm.nodup_iff.2 (nodup_cons.2 ⟨hnew, h.nodup⟩), fun v hv => ?_, ?_⟩
  · rcases mem_cons.1 (hperm.mem_iff.1 hv) with rfl | hv
    · exact hlt
    · exact h.inside v hv
  · rw [trail_enter, isChain_append]
    refine ⟨h.linked, isChain_singleton _, fun v hv w hw => ?_⟩
    rw [head?_cons, Option.mem_some_iff] at hw
    exact hw ▸ hedge v hv

/-- A step visits no node anew that is in the order already, and it follows an edge to a new one.
What it needs of the current frame is that its targets are successors of its node. -/
lemma Ordered.move (h : Ordered arena s) (hm : Move arena s t)
    (hframe : ∀ frame ∈ s.path, ∀ v ∈ frame.targets, arena.Edge frame.node v) :
    Ordered arena t := by
  cases hm with
  | finish node outer done walks pairs =>
      have hnodup := h.nodup
      have hinside := h.inside
      have hlinked := h.linked
      rw [order_finish] at hnodup hinside
      rw [trail_cons, isChain_append] at hlinked
      exact ⟨hnodup, hinside, hlinked.1⟩
  | pass => exact ⟨h.nodup, h.inside, h.linked⟩
  | close => exact ⟨h.nodup, h.inside, h.linked⟩
  | enter node target more outer done walks pairs hlt hnew =>
      have hrest : Ordered arena ⟨⟨node, more⟩ :: outer, done, walks, pairs⟩ :=
        ⟨h.nodup, h.inside, h.linked⟩
      refine hrest.enter hnew hlt fun v hv => ?_
      rw [trail_cons, getLast?_concat, Option.mem_some_iff] at hv
      exact hv ▸ hframe ⟨node, target :: more⟩ mem_cons_self target mem_cons_self

/-! ## Edges that have been looked at -/

/-- An edge is dealt with: it is collected, or its target stands further down in the order. -/
def Passed (s : Search) (u v : ℕ) : Prop := (u, v) ∈ s.pairs ∨ [u, v] <+ s.order

lemma Passed.mono {u v : ℕ} (h : s.Passed u v) (hpairs : ∀ pair ∈ s.pairs, pair ∈ t.pairs)
    (horder : s.order <+ t.order) : t.Passed u v := by
  rcases h with h | h
  · exact Or.inl (hpairs _ h)
  · exact Or.inr (h.trans horder)

/-- All edges of finished nodes are dealt with, and of the nodes on the path those that are not
among the targets that are left. -/
structure LookedAt (arena : Arena) (s : Search) : Prop where
  frames : ∀ frame ∈ s.path, ∃ seen, arena.successors frame.node = seen ++ frame.targets ∧
    ∀ v ∈ seen, s.Passed frame.node v
  finished : ∀ u ∈ s.finished, ∀ v ∈ arena.successors u, s.Passed u v

lemma LookedAt.edge (h : LookedAt arena s) : ∀ frame ∈ s.path, ∀ v ∈ frame.targets,
    arena.Edge frame.node v := by
  intro frame hframe v hv
  obtain ⟨seen, hseen, -⟩ := h.frames frame hframe
  rw [Arena.Edge, hseen]
  exact mem_append_right seen hv

/-- Once the first target of the current frame is dealt with, the frame may move on to the others;
a new frame on top of it has dealt with nothing yet. -/
lemma LookedAt.advance {node target : ℕ} {more : List ℕ} {outer : List SearchFrame}
    (h : LookedAt arena s) (new : List SearchFrame)
    (hpath : s.path = ⟨node, target :: more⟩ :: outer)
    (hpath' : t.path = new ++ ⟨node, more⟩ :: outer) (hdone : t.finished = s.finished)
    (hnew : ∀ frame ∈ new, arena.successors frame.node = frame.targets)
    (hpairs : ∀ pair ∈ s.pairs, pair ∈ t.pairs) (horder : s.order <+ t.order)
    (hpassed : t.Passed node target) : LookedAt arena t := by
  refine ⟨fun frame hframe => ?_, fun u hu v hv => ?_⟩
  · rw [hpath', mem_append, mem_cons] at hframe
    rcases hframe with hframe | rfl | hframe
    · exact ⟨[], by rw [hnew frame hframe, nil_append], by simp⟩
    · obtain ⟨seen, hseen, hall⟩ := h.frames ⟨node, target :: more⟩ (by simp [hpath])
      refine ⟨seen ++ [target], by simpa using hseen, fun v hv => ?_⟩
      rcases mem_append.1 hv with hv | hv
      · exact (hall v hv).mono hpairs horder
      · rw [mem_singleton.1 hv]
        exact hpassed
    · obtain ⟨seen, hseen, hall⟩ := h.frames frame (by simp [hpath, hframe])
      exact ⟨seen, hseen, fun v hv => (hall v hv).mono hpairs horder⟩
  · rw [hdone] at hu
    exact (h.finished u hu v hv).mono hpairs horder

/-! ## Closed walks of the search -/

/-- The walk that is closed is the part of the path from the target on, and the target again. -/
lemma closedWalk_eq {target : ℕ} (h : target ∈ s.trail) :
    ∃ front more, s.trail = front ++ target :: more ∧
      s.closedWalk target = target :: more ++ [target] := by
  obtain ⟨front, more, heq, hfront⟩ := eq_append_cons_of_mem h
  refine ⟨front, more, heq, ?_⟩
  have hskip : ∀ x ∈ front, (x != target) = true := by
    intro x hx
    rw [bne_iff_ne]
    exact fun e => hfront (e ▸ hx)
  rw [closedWalk, heq, dropWhile_append_of_pos hskip, dropWhile_cons_of_neg (by simp)]

lemma isClosed_closedWalk (h : Ordered arena s) {target : ℕ} (htarget : target ∈ s.trail)
    (hedge : ∀ v ∈ s.trail.getLast?, arena.Edge v target) :
    Walk.IsClosed arena.Edge (s.closedWalk target) := by
  obtain ⟨front, more, htrail, hwalk⟩ := closedWalk_eq htarget
  have hlinked := h.linked
  have hnodup := (nodup_append.1 h.nodup).1
  rw [htrail] at hlinked hnodup hedge
  refine ⟨⟨target, more, hwalk⟩, ?_, ?_⟩
  · rw [hwalk, dropLast_concat]
    exact (nodup_append.1 hnodup).2.1
  · rw [hwalk, isChain_append]
    refine ⟨(isChain_append.1 hlinked).2.1, isChain_singleton _, fun v hv w hw => ?_⟩
    rw [head?_cons, Option.mem_some_iff] at hw
    refine hw ▸ hedge v ?_
    rw [getLast?_append_of_ne_nil front (by simp)]
    exact hv

lemma mem_steps_closedWalk {node target : ℕ} (htarget : target ∈ s.trail)
    (hlast : s.trail.getLast? = some node) :
    (node, target) ∈ Walk.steps (s.closedWalk target) := by
  obtain ⟨front, more, htrail, hwalk⟩ := closedWalk_eq htarget
  rw [htrail, getLast?_append_of_ne_nil front (by simp)] at hlast
  rw [hwalk]
  exact Walk.mem_steps_concat hlast

/-- Whatever the first target of the current frame is, the step deals with the edge to it. -/
lemma LookedAt.move (hin : arena.IsClosed) (h : LookedAt arena s) (hm : Move arena s t) :
    LookedAt arena t := by
  cases hm with
  | finish node outer done walks pairs =>
      have hsub : order ⟨⟨node, []⟩ :: outer, done, walks, pairs⟩ <+
          order ⟨outer, node :: done, walks, pairs⟩ := by
        rw [order_finish]
      refine ⟨fun frame hframe => ?_, fun u hu v hv => ?_⟩
      · obtain ⟨seen, hseen, hall⟩ := h.frames frame (mem_cons_of_mem _ hframe)
        exact ⟨seen, hseen, fun v hv => (hall v hv).mono (fun _ => id) hsub⟩
      · rcases mem_cons.1 hu with rfl | hu
        · obtain ⟨seen, hseen, hall⟩ := h.frames ⟨u, []⟩ mem_cons_self
          rw [hseen, append_nil] at hv
          exact (hall v hv).mono (fun _ => id) hsub
        · exact (h.finished u hu v hv).mono (fun _ => id) hsub
  | pass node target more outer done walks pairs hdone =>
      have hedge := h.edge ⟨node, target :: more⟩ mem_cons_self target mem_cons_self
      have htarget : target ∈ done := by
        rcases hdone with hdone | hdone
        · exact hdone
        · exact absurd (hin _ _ hedge).2 (not_lt.2 hdone)
      refine h.advance [] rfl rfl rfl (by simp) (fun _ => id) (Sublist.refl _)
        (Or.inr ?_)
      have hnode : [node] <+ trail ⟨⟨node, more⟩ :: outer, done, walks, pairs⟩ :=
        singleton_sublist.2 (by simp [trail])
      exact hnode.append (singleton_sublist.2 htarget)
  | close node target more outer done walks pairs hpath =>
      refine h.advance [] rfl rfl rfl (by simp)
        (fun _ hpair => mem_append_left _ hpair) (Sublist.refl _) (Or.inl ?_)
      refine mem_append_right _ (mem_steps_closedWalk hpath ?_)
      rw [trail_cons, getLast?_concat]
  | enter node target more outer done walks pairs hlt hnew =>
      refine h.advance [⟨target, arena.successors target⟩] rfl rfl rfl (by simp)
        (fun _ => id) ?_ (Or.inr ?_)
      · exact order_sublist_enter target
      · rw [order_enter, trail_cons]
        have hnode : [node] <+ trail ⟨outer, done, walks, pairs⟩ ++ [node] :=
          singleton_sublist.2 (by simp)
        exact hnode.append (singleton_sublist.2 mem_cons_self)

/-! ## What is reported -/

/-- The pairs are edges of closed walks, and every such walk is reported under its key, once. -/
structure Reported (arena : Arena) (s : Search) : Prop where
  closed : ∀ walk ∈ s.walks, Walk.IsClosed arena.Edge walk
  distinct : s.walks.Pairwise fun a b => key arena a ≠ key arena b
  collected : ∀ walk ∈ s.walks, ∀ pair ∈ Walk.steps walk, pair ∈ s.pairs
  covered : ∀ pair ∈ s.pairs, ∃ walk, Walk.IsClosed arena.Edge walk ∧ pair ∈ Walk.steps walk ∧
    ∃ known ∈ s.walks, key arena known = key arena walk

/-- **A closed walk that is not reported still counts.**  Its edges are collected like those of any
other, and it is left out only because a walk with its key is reported already. -/
lemma Reported.close (h : Reported arena s) {walk : List ℕ}
    (hwalk : Walk.IsClosed arena.Edge walk) : Reported arena (close arena walk s) := by
  have hpairs : (Search.close arena walk s).pairs = s.pairs ++ Walk.steps walk := rfl
  by_cases hknown : s.walks.any fun known => key arena known == key arena walk
  · have hwalks : (Search.close arena walk s).walks = s.walks := if_pos hknown
    refine ⟨hwalks ▸ h.closed, hwalks ▸ h.distinct, fun w hw pair hpair => ?_, fun pair hp => ?_⟩
    · rw [hwalks] at hw
      exact mem_append_left _ (h.collected w hw pair hpair)
    · rw [hwalks]
      rcases mem_append.1 (hpairs ▸ hp) with hp | hp
      · exact h.covered pair hp
      · obtain ⟨known, hmem, hkey⟩ := any_eq_true.1 hknown
        exact ⟨walk, hwalk, hp, known, hmem, eq_of_beq hkey⟩
  · have hwalks : (Search.close arena walk s).walks = s.walks ++ [walk] := if_neg hknown
    have hnew : ∀ known ∈ s.walks, key arena known ≠ key arena walk := by
      intro known hmem hkey
      exact hknown (any_eq_true.2 ⟨known, hmem, by rw [hkey]; exact beq_self_eq_true _⟩)
    refine ⟨fun w hw => ?_, ?_, fun w hw pair hpair => ?_, fun pair hp => ?_⟩
    · rw [hwalks] at hw
      rcases mem_append.1 hw with hw | hw
      · exact h.closed w hw
      · exact mem_singleton.1 hw ▸ hwalk
    · rw [hwalks, pairwise_append]
      refine ⟨h.distinct, pairwise_singleton _ _, fun known hmem w hw => ?_⟩
      exact mem_singleton.1 hw ▸ hnew known hmem
    · rw [hwalks] at hw
      rcases mem_append.1 hw with hw | hw
      · exact mem_append_left _ (h.collected w hw pair hpair)
      · exact mem_append_right _ (mem_singleton.1 hw ▸ hpair)
    · rw [hwalks]
      rcases mem_append.1 (hpairs ▸ hp) with hp | hp
      · obtain ⟨w, hw, hstep, known, hmem, hkey⟩ := h.covered pair hp
        exact ⟨w, hw, hstep, known, mem_append_left _ hmem, hkey⟩
      · exact ⟨walk, hwalk, hp, walk, by simp, rfl⟩

/-- Only closing a walk reports anything; the path up to the current node and the edge that is
being looked at are that walk. -/
lemma Reported.move (h : Reported arena s) (ho : Ordered arena s) (hl : LookedAt arena s)
    (hm : Move arena s t) : Reported arena t := by
  cases hm with
  | finish => exact ⟨h.closed, h.distinct, h.collected, h.covered⟩
  | pass => exact ⟨h.closed, h.distinct, h.collected, h.covered⟩
  | close node target more outer done walks pairs hpath =>
      have hrest : Ordered arena ⟨⟨node, more⟩ :: outer, done, walks, pairs⟩ :=
        ⟨ho.nodup, ho.inside, ho.linked⟩
      have hreported : Reported arena ⟨⟨node, more⟩ :: outer, done, walks, pairs⟩ :=
        ⟨h.closed, h.distinct, h.collected, h.covered⟩
      refine hreported.close (isClosed_closedWalk hrest hpath fun v hv => ?_)
      rw [trail_cons, getLast?_concat, Option.mem_some_iff] at hv
      exact hv ▸ hl.edge ⟨node, target :: more⟩ mem_cons_self target mem_cons_self
  | enter => exact ⟨h.closed, h.distinct, h.collected, h.covered⟩

/-! ## The three promises together -/

structure Invariant (arena : Arena) (s : Search) : Prop extends
    Ordered arena s, LookedAt arena s, Reported arena s

lemma Invariant.move (hin : arena.IsClosed) (h : Invariant arena s) (hm : Move arena s t) :
    Invariant arena t where
  toOrdered := h.toOrdered.move hm h.toLookedAt.edge
  toLookedAt := h.toLookedAt.move hin hm
  toReported := h.toReported.move h.toOrdered h.toLookedAt hm

lemma Invariant.run (hin : arena.IsClosed) (h : Invariant arena s) :
    Invariant arena (run arena s) :=
  run_induction (fun _ hbusy hs => hs.move hin (move_step hbusy)) s h

/-! ## From root to root -/

lemma Move.mem_order (hm : Move arena s t) {v : ℕ} (hv : v ∈ s.order) : v ∈ t.order := by
  cases hm with
  | finish => exact order_finish .. ▸ hv
  | pass => exact hv
  | close => exact hv
  | enter => exact (order_sublist_enter _).subset hv

lemma mem_order_run {v : ℕ} (hv : v ∈ s.order) : v ∈ (run arena s).order :=
  run_induction (P := fun s => v ∈ s.order) (fun _ hbusy hs => (move_step hbusy).mem_order hs) s hv

/-- Between two roots the path is empty. -/
structure Resting (arena : Arena) (s : Search) : Prop extends Invariant arena s where
  idle : s.path = []

lemma Resting.order_eq (h : Resting arena s) : s.order = s.finished := by
  simp [order, trail, h.idle]

lemma Resting.start (arena : Arena) : Resting arena start where
  nodup := nodup_nil
  inside := by simp [order, trail, Search.start]
  linked := isChain_nil
  frames := by simp [Search.start]
  finished := by simp [Search.start]
  closed := by simp [Search.start]
  distinct := Pairwise.nil
  collected := by simp [Search.start]
  covered := by simp [Search.start]
  idle := rfl

/-- A search from a root ends in a state of rest, and has visited the root. -/
lemma Resting.fromRoot (hin : arena.IsClosed) (h : Resting arena s) {root : ℕ}
    (hroot : root < arena.size) :
    Resting arena (fromRoot arena s root) ∧ root ∈ (fromRoot arena s root).order := by
  unfold Search.fromRoot
  split_ifs with hvisited
  · exact ⟨h, isVisited_iff.1 hvisited⟩
  · have hnew : root ∉ s.order := fun hmem => hvisited (isVisited_iff.2 hmem)
    have htrail : s.trail = [] := by simp [trail, h.idle]
    have henter : Invariant arena (Search.enter arena root s) := by
      refine ⟨h.toOrdered.enter hnew hroot (by simp [htrail]), ⟨fun frame hframe => ?_, ?_⟩,
        ⟨h.closed, h.distinct, h.collected, h.covered⟩⟩
      · have hpath : (Search.enter arena root s).path = [⟨root, arena.successors root⟩] := by
          simp [Search.enter, h.idle]
        rw [hpath, mem_singleton] at hframe
        subst hframe
        exact ⟨[], rfl, by simp⟩
      · intro u hu v hv
        exact (h.finished u hu v hv).mono (fun _ => id) (order_sublist_enter root)
    refine ⟨⟨henter.run hin, path_run _⟩, mem_order_run ?_⟩
    rw [order_enter]
    exact mem_append_right _ mem_cons_self

/-- A later root loses nothing that was visited from an earlier one. -/
lemma mem_order_fromRoot {v root : ℕ} (hv : v ∈ s.order) : v ∈ (fromRoot arena s root).order := by
  unfold fromRoot
  split_ifs
  · exact hv
  · exact mem_order_run ((order_sublist_enter root).subset hv)

lemma resting_foldl_fromRoot (hin : arena.IsClosed) (roots : List ℕ)
    (hroots : ∀ root ∈ roots, root < arena.size) (h : Resting arena s) :
    Resting arena (roots.foldl (fromRoot arena) s) ∧
      ∀ v, v ∈ s.order ∨ v ∈ roots → v ∈ (roots.foldl (fromRoot arena) s).order := by
  induction roots generalizing s with
  | nil => exact ⟨h, by simp⟩
  | cons root rest ih =>
      obtain ⟨hrest, hroot⟩ := h.fromRoot hin (hroots root mem_cons_self)
      obtain ⟨hfinal, hmem⟩ := ih (fun v hv => hroots v (mem_cons_of_mem _ hv)) hrest
      refine ⟨hfinal, fun v hv => hmem v ?_⟩
      rcases hv with hv | hv
      · exact Or.inl (mem_order_fromRoot hv)
      · rcases mem_cons.1 hv with rfl | hv
        · exact Or.inl hroot
        · exact Or.inr hv

/-- **At the end all promises hold and nothing is left on the path.** -/
lemma resting_all (hin : arena.IsClosed) : Resting arena (all arena) :=
  (resting_foldl_fromRoot hin (range arena.size) (fun _ => mem_range.1) (Resting.start arena)).1

/-- **At the end every node is finished.** -/
lemma mem_finished_all (hin : arena.IsClosed) {v : ℕ} (hv : v < arena.size) :
    v ∈ (all arena).finished := by
  have h := (resting_foldl_fromRoot hin (range arena.size) (fun _ => mem_range.1)
    (Resting.start arena)).2 v (Or.inr (mem_range.2 hv))
  rw [← (resting_all hin).order_eq]
  exact h

end RepoAtlas.Search
