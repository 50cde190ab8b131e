import RepoAtlas.Proofs.Graph.Arena
import Mathlib.Logic.Relation
import Mathlib.Order.WellFoundedSet
import Mathlib.Tactic.Lemma
import Mathlib.Tactic.NormNum.Basic

/-!
# Directed cycles

What it means for the internal edges of a graph to contain no directed cycle, and the three facts
about it that the analyses rest on.

* `noCycle_of_rank` — a number that grows along every edge forbids cycles; this is how a finishing
  order of a search shows that nothing is left of a cycle.
* `NoCycle.exists_source` — without cycles, some node of every non-empty list is led to from no
  other node of it; this is why a topological sweep never gets stuck.
* `transGen_avoids_or_meets` — a path either avoids a set of edges or runs through one of them.
-/

namespace RepoAtlas

open Relation

/-! ## Relations without cycles -/

section NoCycle

variable {r : ℕ → ℕ → Prop}

/-- Nothing leads back to where it started. -/
def NoCycle (r : ℕ → ℕ → Prop) : Prop := ∀ v, ¬ TransGen r v v

/-- **A rank forbids cycles.** -/
lemma noCycle_of_rank (rank : ℕ → ℕ) (h : ∀ u v, r u v → rank u < rank v) : NoCycle r := by
  have hlt : ∀ u v, TransGen r u v → rank u < rank v := by
    intro u v huv
    induction huv with
    | single h1 => exact h _ _ h1
    | tail _ h1 ih => exact lt_trans ih (h _ _ h1)
  intro v hv
  exact lt_irrefl _ (hlt v v hv)

lemma NoCycle.mono {r' : ℕ → ℕ → Prop} (h : NoCycle r) (hsub : ∀ u v, r' u v → r u v) :
    NoCycle r' := by
  intro v hv
  exact h v (TransGen.mono hsub _ _ hv)

/-- **Without cycles there is a source.**  A relation without cycles is a strict order once it is
closed under composition, and a strict order has a least element on every finite set. -/
lemma NoCycle.exists_source (h : NoCycle r) {nodes : List ℕ} (hne : nodes ≠ []) :
    ∃ v ∈ nodes, ∀ u ∈ nodes, ¬ r u v := by
  have hirr : Std.Irrefl (TransGen r) := ⟨h⟩
  have hstrict : IsStrictOrder ℕ (TransGen r) := {}
  have hwf : {v | v ∈ nodes}.WellFoundedOn (TransGen r) :=
    (List.finite_toSet nodes).wellFoundedOn
  obtain ⟨first, hfirst⟩ := List.exists_mem_of_ne_nil nodes hne
  obtain ⟨⟨v, hv⟩, -, hmin⟩ := hwf.has_min Set.univ ⟨⟨first, hfirst⟩, Set.mem_univ _⟩
  refine ⟨v, hv, fun u hu huv => ?_⟩
  exact hmin ⟨u, hu⟩ (Set.mem_univ _) (TransGen.single huv)

/-- A path avoids a set of edges, or it runs through one of them. -/
lemma transGen_avoids_or_meets (p : ℕ → ℕ → Prop) {u v : ℕ} (huv : TransGen r u v) :
    TransGen (fun a b => r a b ∧ ¬ p a b) u v ∨
      ∃ a b, r a b ∧ p a b ∧ ReflTransGen r u a ∧ ReflTransGen r b v := by
  induction huv with
  | @single c huc =>
      by_cases hp : p u c
      · exact Or.inr ⟨u, c, huc, hp, ReflTransGen.refl, ReflTransGen.refl⟩
      · exact Or.inl (TransGen.single ⟨huc, hp⟩)
  | @tail b c hub hbc ih =>
      by_cases hp : p b c
      · exact Or.inr ⟨b, c, hbc, hp, hub.to_reflTransGen, ReflTransGen.refl⟩
      · rcases ih with ih | ⟨a, d, had, hpd, hua, hdb⟩
        · exact Or.inl (ih.tail ⟨hbc, hp⟩)
        · exact Or.inr ⟨a, d, had, hpd, hua, hdb.tail hbc⟩

lemma reflTransGen_of_isChain_cons {first : ℕ} {more : List ℕ} (h : (first :: more).IsChain r) :
    ∀ x ∈ first :: more, ReflTransGen r first x := by
  induction more generalizing first with
  | nil =>
      intro x hx
      rw [List.mem_singleton.1 hx]
  | cons second rest ih =>
      rw [List.isChain_cons_cons] at h
      intro x hx
      rcases List.mem_cons.1 hx with rfl | hx
      · exact ReflTransGen.refl
      · exact (ih h.2 x hx).head h.1

lemma reflTransGen_of_isChain_concat {front : List ℕ} {last : ℕ}
    (h : (front ++ [last]).IsChain r) : ∀ x ∈ front ++ [last], ReflTransGen r x last := by
  induction front with
  | nil =>
      intro x hx
      rw [List.mem_singleton.1 hx]
  | cons first rest ih =>
      intro x hx
      rcases List.mem_cons.1 hx with rfl | hx
      · exact reflTransGen_of_isChain_cons h last (by simp)
      · exact ih (List.IsChain.tail h) x hx

lemma transGen_of_isChain_closed {first : ℕ} {more : List ℕ}
    (h : (first :: more ++ [first]).IsChain r) : TransGen r first first := by
  cases more with
  | nil => exact TransGen.single ((List.isChain_cons_cons.1 h).1)
  | cons second rest =>
      have hparts := List.isChain_cons_cons.1 h
      exact TransGen.head' hparts.1
        (reflTransGen_of_isChain_cons hparts.2 first (by simp))

end NoCycle

/-! ## Orders as lists -/

lemma idxOf_lt_of_pair_sublist {u v : ℕ} {order : List ℕ} (h : [u, v].Sublist order)
    (hnd : order.Nodup) : order.idxOf u < order.idxOf v := by
  induction order with
  | nil => simp at h
  | cons a rest ih =>
      obtain ⟨ha, hnd⟩ := List.nodup_cons.1 hnd
      rcases List.sublist_cons_iff.1 h with h | ⟨_, heq, h⟩
      · have hu : u ≠ a := fun e => ha (e ▸ h.subset (by simp))
        have hv : v ≠ a := fun e => ha (e ▸ h.subset (by simp))
        rw [List.idxOf_cons_ne _ hu.symm, List.idxOf_cons_ne _ hv.symm]
        exact Nat.succ_lt_succ (ih h hnd)
      · obtain ⟨rfl, rfl⟩ := List.cons.inj heq
        have hv : v ∈ rest := h.subset (by simp)
        have hne : v ≠ u := fun e => ha (e ▸ hv)
        rw [List.idxOf_cons_self, List.idxOf_cons_ne _ hne.symm]
        exact Nat.succ_pos _

/-! ## Graphs -/

/-- The internal edges contain no directed cycle. -/
def DependencyGraph.IsAcyclic {τ : Type} (graph : DependencyGraph τ) : Prop := NoCycle graph.Imports

end RepoAtlas
