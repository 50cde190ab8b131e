import RepoAtlas.Proofs.Graph.Acyclicity
import RepoAtlas.Proofs.Graph.Canonical

/-!
# Closed walks

A closed walk goes along edges, visits no node twice, and ends where it began.  The search builds
them, the report lists them, and the depths forget their edges; this file collects what can be said
of a single one.

* `IsClosed.leads` — any two nodes on a closed walk lead to each other.
* `mem_iff_exists_mem_steps` — the nodes on it are the ends of its steps.
* `IsClosed.eq_of_loop` — a closed walk with a step from a node to itself is that step.
* `mem_iff_of_key_eq` — walks with the same key visit the same nodes.
-/

namespace RepoAtlas.Walk

open List Relation

variable {r : ℕ → ℕ → Prop} {walk : List ℕ}

/-- A walk along edges that ends where it began and visits no node twice in between. -/
structure IsClosed (r : ℕ → ℕ → Prop) (walk : List ℕ) : Prop where
  /-- There is a first node, and it is repeated at the end. -/
  closes : ∃ first more, walk = first :: more ++ [first]
  nodup : walk.dropLast.Nodup
  along : walk.IsChain r

/-! ## Steps -/

lemma steps_cons_cons (a b : ℕ) (rest : List ℕ) :
    steps (a :: b :: rest) = (a, b) :: steps (b :: rest) := rfl

lemma rel_of_mem_steps (h : walk.IsChain r) {a b : ℕ} (hab : (a, b) ∈ steps walk) : r a b := by
  induction walk with
  | nil => simp [steps] at hab
  | cons first rest ih =>
      cases rest with
      | nil => simp [steps] at hab
      | cons second rest =>
          rw [isChain_cons_cons] at h
          rw [steps_cons_cons] at hab
          rcases mem_cons.1 hab with heq | hab
          · obtain ⟨rfl, rfl⟩ := Prod.mk.inj heq
            exact h.1
          · exact ih h.2 hab

lemma mem_of_mem_steps {a b : ℕ} (hab : (a, b) ∈ steps walk) : a ∈ walk ∧ b ∈ walk :=
  ⟨(of_mem_zip hab).1, mem_of_mem_tail (of_mem_zip hab).2⟩

lemma mem_steps_concat {a b : ℕ} (h : walk.getLast? = some a) : (a, b) ∈ steps (walk ++ [b]) := by
  induction walk with
  | nil => simp at h
  | cons first rest ih =>
      cases rest with
      | nil =>
          rw [getLast?_singleton, Option.some_inj] at h
          simp [steps, h]
      | cons second rest =>
          rw [getLast?_cons_cons] at h
          exact mem_cons_of_mem _ (ih h)

lemma mem_iff_exists_mem_steps (h : 2 ≤ walk.length) {x : ℕ} :
    x ∈ walk ↔ ∃ pair ∈ steps walk, x = pair.1 ∨ x = pair.2 := by
  constructor
  · induction walk with
    | nil => simp at h
    | cons first rest ih =>
        intro hx
        cases rest with
        | nil => simp at h
        | cons second rest =>
            rw [steps_cons_cons]
            rcases mem_cons.1 hx with rfl | hx
            · exact ⟨(x, second), by simp, Or.inl rfl⟩
            · cases rest with
              | nil =>
                  rw [mem_singleton.1 hx]
                  exact ⟨(first, second), by simp, Or.inr rfl⟩
              | cons third rest =>
                  obtain ⟨pair, hpair, hend⟩ := ih (by simp) hx
                  exact ⟨pair, mem_cons_of_mem _ hpair, hend⟩
  · rintro ⟨⟨a, b⟩, hab, rfl | rfl⟩
    · exact (mem_of_mem_steps hab).1
    · exact (mem_of_mem_steps hab).2

/-- If only the last entry of a walk repeats another, a step from a node to itself is its last. -/
lemma loop_at_end {first last v : ℕ} {more : List ℕ} (hnd : (first :: more).Nodup)
    (hv : (v, v) ∈ steps (first :: more ++ [last])) :
    (first :: more).getLast? = some v ∧ last = v := by
  induction more generalizing first with
  | nil =>
      simp only [steps, cons_append, nil_append, tail_cons, zip_cons_cons, zip_nil_right,
        mem_singleton, Prod.mk.injEq] at hv
      exact ⟨by simp [hv.1], hv.2.symm⟩
  | cons second rest ih =>
      rw [cons_append, cons_append, steps_cons_cons] at hv
      rcases mem_cons.1 hv with heq | hv
      · obtain ⟨rfl, rfl⟩ := Prod.mk.inj heq
        simp at hnd
      · rw [getLast?_cons_cons]
        exact ih hnd.of_cons hv

/-! ## What closed walks are good for -/

namespace IsClosed

lemma two_le_length (h : IsClosed r walk) : 2 ≤ walk.length := by
  obtain ⟨first, more, rfl⟩ := h.closes
  simp

lemma mem_dropLast (h : IsClosed r walk) {x : ℕ} : x ∈ walk.dropLast ↔ x ∈ walk := by
  obtain ⟨first, more, rfl⟩ := h.closes
  rw [dropLast_concat]
  simp only [mem_append, mem_cons, not_mem_nil, or_false]
  tauto

/-- **The nodes on a closed walk lead to one another.**  Every node is led to from the first one
and leads to the last one, and these are the same. -/
lemma leads (h : IsClosed r walk) {x y : ℕ} (hx : x ∈ walk) (hy : y ∈ walk) :
    ReflTransGen r x y := by
  have halong := h.along
  obtain ⟨first, more, rfl⟩ := h.closes
  have hxf : ReflTransGen r x first :=
    reflTransGen_of_isChain_concat halong x hx
  have hfy : ReflTransGen r first y := by
    rw [cons_append] at halong hy
    exact reflTransGen_of_isChain_cons halong y hy
  exact hxf.trans hfy

lemma transGen (h : IsClosed r walk) : ∃ v, TransGen r v v := by
  have halong := h.along
  obtain ⟨first, more, rfl⟩ := h.closes
  exact ⟨first, transGen_of_isChain_closed halong⟩

/-- A closed walk through a loop is the loop: a longer one would visit the node twice. -/
lemma eq_of_loop (h : IsClosed r walk) {v : ℕ} (hv : (v, v) ∈ steps walk) : walk = [v, v] := by
  have hnd := h.nodup
  obtain ⟨first, more, rfl⟩ := h.closes
  rw [dropLast_concat] at hnd
  obtain ⟨hlast, rfl⟩ := loop_at_end hnd hv
  cases more with
  | nil => rfl
  | cons second rest =>
      rw [getLast?_cons_cons] at hlast
      exact absurd (mem_of_getLast? hlast) (nodup_cons.1 hnd).1

lemma eq_of_forall (h : IsClosed r walk) {v : ℕ} (hall : ∀ x ∈ walk, x = v) : walk = [v, v] := by
  have hnd := h.nodup
  obtain ⟨first, more, rfl⟩ := h.closes
  rw [dropLast_concat] at hnd
  obtain rfl := hall first (by simp)
  cases more with
  | nil => rfl
  | cons second rest =>
      have heq := hall second (by simp)
      simp [heq] at hnd

end IsClosed

/-! ## Keys -/

lemma isVariant_of_key_eq {arena : Search.Arena} {walk other : List ℕ}
    (h : Search.key arena walk = Search.key arena other) :
    IsVariant (walk.dropLast.map arena.name) (other.dropLast.map arena.name) :=
  canonical_eq_iff.1 h

/-- **Walks with the same key visit the same nodes**, when the nodes have different names. -/
lemma mem_iff_of_key_eq {arena : Search.Arena} {walk other : List ℕ}
    (hname : ∀ i j, i < arena.size → j < arena.size → arena.name i = arena.name j → i = j)
    (hwalk : ∀ x ∈ walk.dropLast, x < arena.size) (hother : ∀ x ∈ other.dropLast, x < arena.size)
    (h : Search.key arena walk = Search.key arena other) (x : ℕ) :
    x ∈ walk.dropLast ↔ x ∈ other.dropLast := by
  have hperm := (isVariant_of_key_eq h).perm
  constructor
  · intro hx
    obtain ⟨y, hy, heq⟩ := mem_map.1 (hperm.mem_iff.2 (mem_map_of_mem hx))
    rw [← hname y x (hother y hy) (hwalk x hx) heq]
    exact hy
  · intro hx
    obtain ⟨y, hy, heq⟩ := mem_map.1 (hperm.mem_iff.1 (mem_map_of_mem hx))
    rw [← hname y x (hwalk y hy) (hother x hx) heq]
    exact hy

end RepoAtlas.Walk
