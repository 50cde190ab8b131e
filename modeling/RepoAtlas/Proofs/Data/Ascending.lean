import RepoAtlas.Naming
import Mathlib.Data.List.Nodup
import Mathlib.Data.List.Sort
import Mathlib.Tactic.Lemma

/-!
# Lists in the order of a key

Files, modules and manifests are put in the order of their paths, and no two have the same path.
Such an order is a function of the set: a list that ascends is determined by its elements
(`Ascending.eq_of_perm`).  So it makes no difference in which order things were handed over
(`byKey_eq_of_perm`), and taking some of them away leaves the others as they were
(`byKey_filter`).  What comes first in such a list has the least key (`exists_first_iff`).
-/

namespace RepoAtlas

open List

variable {α : Type} {key : α → String} {items other : List α}

/-- The items in the order of their keys; equal keys keep their order. -/
abbrev byKey (key : α → String) (items : List α) : List α :=
  items.mergeSort fun a b => key a ≤ key b

/-- Every key is less than those after it. -/
def Ascending (key : α → String) (items : List α) : Prop := items.Pairwise fun a b => key a < key b

instance (key : α → String) (items : List α) : Decidable (Ascending key items) :=
  inferInstanceAs (Decidable (items.Pairwise fun a b => key a < key b))

namespace Ascending

lemma nodup_keys (h : Ascending key items) : (items.map key).Nodup := by
  refine (pairwise_map.2 h).imp fun {a b} hlt heq => ?_
  rw [heq] at hlt
  exact String.lt_irrefl _ hlt

/-- **Ascending lists are determined by their elements.** -/
lemma eq_of_perm (h : Ascending key items) (h' : Ascending key other) (hperm : items ~ other) :
    items = other := by
  refine Perm.eq_of_pairwise (fun a b _ _ hab hba => ?_) h h' hperm
  exact absurd (String.lt_trans hab hba) (String.lt_irrefl _)

lemma filter (h : Ascending key items) (p : α → Bool) : Ascending key (items.filter p) :=
  Pairwise.filter p h

/-- The first item of a kind is the one with the least key. -/
lemma exists_first_iff (h : Ascending key items) {p q : α → Prop} :
    (∃ before item after, items = before ++ item :: after ∧ p item ∧
        ∀ earlier ∈ before, ¬ q earlier) ↔
      ∃ item ∈ items, p item ∧ ∀ other ∈ items, q other → key item ≤ key other := by
  constructor
  · rintro ⟨before, item, after, rfl, hitem, hbefore⟩
    refine ⟨item, mem_append_right before mem_cons_self, hitem, ?_⟩
    intro other hother hq
    rcases mem_append.1 hother with hmem | hmem
    · exact absurd hq (hbefore other hmem)
    · rcases mem_cons.1 hmem with rfl | hafter
      · exact String.le_refl _
      · have hrest := (pairwise_cons.1 (pairwise_append.1 h).2.1).1
        refine String.not_lt.1 fun hgt => ?_
        exact String.lt_irrefl _ (String.lt_trans hgt (hrest other hafter))
  · rintro ⟨item, hmem, hitem, hleast⟩
    obtain ⟨before, after, rfl⟩ := append_of_mem hmem
    refine ⟨before, item, after, rfl, hitem, ?_⟩
    intro earlier hearlier hq
    have hlt := (pairwise_append.1 h).2.2 earlier hearlier item mem_cons_self
    exact String.not_lt.2 (hleast earlier (mem_append_left _ hearlier) hq) hlt

end Ascending

lemma byKey_perm (key : α → String) (items : List α) : byKey key items ~ items :=
  mergeSort_perm items _

lemma pairwise_byKey (key : α → String) (items : List α) :
    (byKey key items).Pairwise fun a b => decide (key a ≤ key b) = true := by
  refine pairwise_mergeSort (fun a b c hab hbc => ?_) (fun a b => ?_) items
  · simp only [decide_eq_true_eq] at hab hbc ⊢
    exact String.le_trans hab hbc
  · simpa using String.le_total (key a) (key b)

/-- Sorting distinct keys makes them ascend. -/
lemma ascending_byKey (h : (items.map key).Nodup) : Ascending key (byKey key items) := by
  have hdistinct : (byKey key items).Pairwise fun a b => key a ≠ key b :=
    pairwise_map.1 (((byKey_perm key items).map key).nodup_iff.2 h)
  refine (pairwise_byKey key items).imp₂ (fun a b hle hne => ?_) hdistinct
  refine String.not_le.1 fun hge => hne ?_
  exact String.le_antisymm (of_decide_eq_true hle) hge

lemma ascending_names (names : List String) : Ascending id (Naming.ascending names) :=
  ascending_byKey (by rw [map_id]; exact Naming.nodup_eraseDups _)

lemma Ascending.byKey_eq (h : Ascending key items) : byKey key items = items :=
  (ascending_byKey h.nodup_keys).eq_of_perm h (byKey_perm key items)

/-- **The order in which things are handed over makes no difference.** -/
lemma byKey_eq_of_perm (h : (items.map key).Nodup) (hperm : other ~ items) :
    byKey key other = byKey key items := by
  have h' : (other.map key).Nodup := (hperm.map key).nodup_iff.2 h
  refine (ascending_byKey h').eq_of_perm (ascending_byKey h) ?_
  exact (byKey_perm key other).trans (hperm.trans (byKey_perm key items).symm)

/-- **Taking some things away leaves the order of the others.** -/
lemma byKey_filter (h : (items.map key).Nodup) (p : α → Bool) :
    byKey key (items.filter p) = (byKey key items).filter p := by
  have h' : ((items.filter p).map key).Nodup := h.sublist (filter_sublist.map key)
  refine (ascending_byKey h').eq_of_perm ((ascending_byKey h).filter p) ?_
  exact (byKey_perm key _).trans ((byKey_perm key items).filter p).symm

/-- With distinct keys, an item has its key to itself. -/
lemma key_ne_of_nodup {β : Type} {keyOf : α → β} {before after : List α} {item : α}
    (h : ((before ++ item :: after).map keyOf).Nodup) :
    (∀ other ∈ before, keyOf other ≠ keyOf item) ∧ ∀ other ∈ after, keyOf other ≠ keyOf item := by
  rw [map_append, map_cons, nodup_append, nodup_cons] at h
  obtain ⟨-, ⟨hafter, -⟩, hbefore⟩ := h
  refine ⟨fun other hother => hbefore _ (mem_map_of_mem hother) _ mem_cons_self, ?_⟩
  exact fun other hother heq => hafter (heq ▸ mem_map_of_mem hother)

/-- There is one item to leave out. -/
lemma filter_key_ne {β : Type} [DecidableEq β] {keyOf : α → β} {before after : List α} {item : α}
    (h : ((before ++ item :: after).map keyOf).Nodup) :
    (before ++ item :: after).filter (keyOf · != keyOf item) = before ++ after := by
  obtain ⟨hbefore, hafter⟩ := key_ne_of_nodup h
  have hkeptBefore : before.filter (keyOf · != keyOf item) = before :=
    filter_eq_self.2 fun other hother => bne_iff_ne.2 (hbefore other hother)
  have hkeptAfter : after.filter (keyOf · != keyOf item) = after :=
    filter_eq_self.2 fun other hother => bne_iff_ne.2 (hafter other hother)
  rw [filter_append, filter_cons_of_neg (by simp), hkeptBefore, hkeptAfter]

/-- What there is for one key only comes from one item. -/
lemma filterMap_key {β γ : Type} {keyOf : α → β} {f : α → Option γ} {items : List α} {item : α}
    (h : (items.map keyOf).Nodup) (hitem : item ∈ items)
    (hf : ∀ other ∈ items, keyOf other ≠ keyOf item → f other = none) :
    items.filterMap f = (f item).toList := by
  obtain ⟨before, after, rfl⟩ := append_of_mem hitem
  obtain ⟨hbefore, hafter⟩ := key_ne_of_nodup h
  have hnoneBefore : before.filterMap f = [] := filterMap_eq_nil_iff.2 fun other hother =>
    hf other (mem_append_left _ hother) (hbefore other hother)
  have hnoneAfter : after.filterMap f = [] := filterMap_eq_nil_iff.2 fun other hother =>
    hf other (mem_append_right _ (mem_cons_of_mem _ hother)) (hafter other hother)
  rw [filterMap_append, filterMap_cons, hnoneBefore, hnoneAfter]
  cases f item <;> rfl

end RepoAtlas
