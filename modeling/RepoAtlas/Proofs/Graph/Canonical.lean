import RepoAtlas.Graph.Cycles
import Mathlib.Data.List.Lex
import Mathlib.Data.List.Rotate
import Mathlib.Data.String.Basic
import Mathlib.Tactic.Lemma

/-!
# The canonical form of a cycle

A closed walk can be written from any of its nodes and in either direction.  `Walk.canonical` picks
the least of these ways, and the point of picking one is `Walk.canonical_eq_iff`: two lists of names
have the same canonical form exactly when one is a rotation of the other or of its reversal.

The two halves of that are `isVariant_canonical` (the canonical form is one of the ways) and
`canonical_le` (it is below all others).  Both only use that `variants` lists every rotation of the
list and of its reversal, which is `mem_variants`.
-/

namespace RepoAtlas.Walk

open List

section Variants

variable {α : Type}

/-- `other` is a rotation of `items` or of its reversal. -/
def IsVariant (items other : List α) : Prop := other ~r items ∨ other ~r items.reverse

lemma IsVariant.refl (items : List α) : IsVariant items items := Or.inl (IsRotated.refl _)

lemma IsVariant.symm {items other : List α} (h : IsVariant items other) :
    IsVariant other items := by
  rcases h with h | h
  · exact Or.inl h.symm
  · exact Or.inr (isRotated_reverse_comm_iff.1 h.symm)

lemma IsVariant.trans {a b c : List α} (hab : IsVariant a b) (hbc : IsVariant b c) :
    IsVariant a c := by
  rcases hab with hab | hab <;> rcases hbc with hbc | hbc
  · exact Or.inl (hbc.trans hab)
  · exact Or.inr (hbc.trans hab.reverse)
  · exact Or.inr (hbc.trans hab)
  · refine Or.inl (hbc.trans ?_)
    rw [← reverse_reverse a]
    exact hab.reverse

lemma IsVariant.perm {items other : List α} (h : IsVariant items other) : other.Perm items := by
  rcases h with h | h
  · exact h.perm
  · exact h.perm.trans (reverse_perm items)

lemma IsVariant.map {β : Type} {items other : List α} (h : IsVariant items other) (f : α → β) :
    IsVariant (items.map f) (other.map f) := by
  rcases h with h | h
  · exact Or.inl (h.map f)
  · refine Or.inr ?_
    rw [← map_reverse]
    exact h.map f

/-- A way of writing the images is a way of writing the items. -/
lemma IsVariant.exists_map_eq {β : Type} {f : α → β} {items : List α} {images : List β}
    (h : IsVariant (items.map f) images) :
    ∃ other, IsVariant items other ∧ images = other.map f := by
  rcases h with h | h
  · obtain ⟨n, rfl⟩ := h.symm
    exact ⟨items.rotate n, Or.inl (IsRotated.forall items n), (map_rotate f items n).symm⟩
  · rw [← map_reverse] at h
    obtain ⟨n, rfl⟩ := h.symm
    exact ⟨items.reverse.rotate n, Or.inr (IsRotated.forall _ n), (map_rotate f _ n).symm⟩

/-- Where images tell items apart, the items are rotated and reversed as their images are. -/
lemma IsVariant.of_map {β : Type} {f : α → β} {g : β → α} {items other : List α}
    (hitems : ∀ x ∈ items, g (f x) = x) (hother : ∀ x ∈ other, g (f x) = x)
    (h : IsVariant (items.map f) (other.map f)) : IsVariant items other := by
  have hback : ∀ l : List α, (∀ x ∈ l, g (f x) = x) → (l.map f).map g = l := by
    intro l hl
    rw [map_map]
    exact (map_congr_left hl).trans (map_id l)
  have hmapped := h.map g
  rwa [hback items hitems, hback other hother] at hmapped

lemma mem_rotations {items other : List α} :
    other ∈ rotations items ↔ items ≠ [] ∧ other ~r items := by
  simp only [rotations, mem_map, mem_range]
  constructor
  · rintro ⟨k, hk, rfl⟩
    refine ⟨length_pos_iff.1 (by omega), ?_⟩
    rw [← rotate_eq_drop_append_take hk.le]
    exact (IsRotated.forall items k)
  · rintro ⟨hne, h⟩
    obtain ⟨n, rfl⟩ := h.symm
    refine ⟨n % items.length, Nat.mod_lt _ (length_pos_iff.2 hne), ?_⟩
    rw [rotate_eq_drop_append_take_mod]

lemma mem_variants {items other : List α} :
    other ∈ variants items ↔ items ≠ [] ∧ IsVariant items other := by
  simp only [variants, mem_append, mem_rotations, IsVariant, ne_eq, reverse_eq_nil_iff]
  tauto

end Variants

/-! ## The least variant -/

lemma least_mem_and_le (first : List String) (more : List (List String)) :
    least first more ∈ first :: more ∧ ∀ other ∈ first :: more, least first more ≤ other := by
  induction more generalizing first with
  | nil => simp [least]
  | cons second rest ih =>
      have hstep : least first (second :: rest) =
          least (if second < first then second else first) rest := rfl
      obtain ⟨hmem, hle⟩ := ih (if second < first then second else first)
      rw [hstep]
      by_cases h : second < first
      · simp only [h, if_true] at hmem hle ⊢
        refine ⟨mem_cons_of_mem _ hmem, fun other hother => ?_⟩
        rcases mem_cons.1 hother with rfl | hother
        · exact (hle second (by simp)).trans h.le
        · exact hle other hother
      · simp only [h, if_false] at hmem hle ⊢
        refine ⟨?_, fun other hother => ?_⟩
        · rcases mem_cons.1 hmem with hmem | hmem
          · rw [hmem]
            exact mem_cons_self
          · exact mem_cons_of_mem _ (mem_cons_of_mem _ hmem)
        · rcases mem_cons.1 hother with rfl | hother
          · exact hle other (by simp)
          · rcases mem_cons.1 hother with rfl | hother
            · exact (hle first (by simp)).trans (not_lt.1 h)
            · exact hle other (mem_cons_of_mem _ hother)

/-- A list that is not empty has a variant, and the canonical one is the least of them all. -/
lemma canonical_mem_and_le {names : List String} (hne : names ≠ []) :
    canonical names ∈ variants names ∧ ∀ other ∈ variants names, canonical names ≤ other := by
  unfold canonical
  split
  · rename_i h
    have hself : names ∈ variants names := mem_variants.2 ⟨hne, IsVariant.refl names⟩
    rw [h] at hself
    simp at hself
  · rename_i first more h
    rw [h]
    exact least_mem_and_le first more

lemma isVariant_canonical (names : List String) : IsVariant names (canonical names) := by
  by_cases hne : names = []
  · subst hne
    exact IsVariant.refl []
  · exact (mem_variants.1 (canonical_mem_and_le hne).1).2

lemma canonical_le {names other : List String} (h : IsVariant names other) :
    canonical names ≤ other := by
  by_cases hne : names = []
  · subst hne
    rw [perm_nil.1 h.perm]
    exact le_refl _
  · exact (canonical_mem_and_le hne).2 other (mem_variants.2 ⟨hne, h⟩)

/-- **Same canonical form, same cycle.** -/
lemma canonical_eq_iff {a b : List String} : canonical a = canonical b ↔ IsVariant a b := by
  constructor
  · intro h
    have hb := isVariant_canonical b
    rw [← h] at hb
    exact (isVariant_canonical a).trans hb.symm
  · intro h
    refine le_antisymm (canonical_le ?_) (canonical_le ?_)
    · exact h.trans (isVariant_canonical b)
    · exact h.symm.trans (isVariant_canonical a)

end RepoAtlas.Walk
