import Mathlib.Data.List.Basic
import Mathlib.Data.List.Induction
import Mathlib.Data.List.Nodup
import Mathlib.Tactic.Lemma

/-!
# The first of each key

Where several items have the same key, the first one often is the one that counts: a field belongs
to the assignment that creates it, a name to the rule that is registered under it first.  `firsts`
keeps these items, in their order.  Whoever goes through a list and takes what has a new key ends up
with them (`firsts_concat`), and **an item is among them exactly if it is what a search for its key
finds** (`mem_firsts_iff`).
-/

namespace RepoAtlas

open List

variable {α β : Type} [DecidableEq β] {key : α → β} {items : List α} {item : α} {k : β}

/-- The items whose key none before them has. -/
def firsts (key : α → β) : List α → List α
  | [] => []
  | item :: rest => item :: (firsts key rest).filter fun other => key other ≠ key item

/-- **An item counts if its key is found at it.** -/
lemma mem_firsts_iff :
    item ∈ firsts key items ↔ items.find? (fun other => key other = key item) = some item := by
  induction items with
  | nil => simp [firsts]
  | cons first rest ih =>
      rw [firsts, mem_cons, mem_filter, ih, find?_cons]
      by_cases hkey : key first = key item
      · simp [hkey, eq_comm]
      · have hne : item ≠ first := fun heq => hkey (heq ▸ rfl)
        simp [hkey, hne, Ne.symm hkey]

/-- Every key that occurs is the key of an item that counts. -/
lemma mem_keys_firsts : k ∈ (firsts key items).map key ↔ k ∈ items.map key := by
  induction items with
  | nil => rfl
  | cons first rest ih =>
      by_cases hkey : k = key first
      · simp [firsts, hkey]
      · rw [firsts, map_cons, map_cons, mem_cons, mem_cons, ← ih]
        simp only [mem_map, mem_filter, hkey, false_or]
        refine exists_congr fun other => ⟨fun h => ⟨h.1.1, h.2⟩, fun h => ⟨⟨h.1, ?_⟩, h.2⟩⟩
        simpa [h.2] using hkey

/-- No two items that count have the same key. -/
lemma nodup_keys_firsts (key : α → β) (items : List α) : ((firsts key items).map key).Nodup := by
  induction items with
  | nil => exact nodup_nil
  | cons first rest ih =>
      rw [firsts, map_cons, nodup_cons]
      refine ⟨fun hmem => ?_, ih.sublist (filter_sublist.map key)⟩
      obtain ⟨other, hother, hsame⟩ := mem_map.1 hmem
      exact of_decide_eq_true (mem_filter.1 hother).2 hsame

/-- If no two items have the same key, all of them count. -/
lemma firsts_of_nodup (h : (items.map key).Nodup) : firsts key items = items := by
  induction items with
  | nil => rfl
  | cons first rest ih =>
      rw [map_cons, nodup_cons] at h
      rw [firsts, ih h.2, filter_eq_self.2]
      exact fun other hother => decide_eq_true fun hkey => h.1 (mem_map.2 ⟨other, hother, hkey⟩)

/-- **One item more** counts if its key has not occurred. -/
lemma firsts_concat (key : α → β) (items : List α) (item : α) : firsts key (items ++ [item]) =
    firsts key items ++ if key item ∈ items.map key then [] else [item] := by
  induction items with
  | nil => rfl
  | cons first rest ih =>
      rw [cons_append, firsts, ih, filter_append, firsts, cons_append, map_cons]
      by_cases hkey : key item = key first <;> by_cases hrest : key item ∈ rest.map key <;>
        simp [hkey, hrest]

/-- What counts still does when more items follow. -/
lemma firsts_prefix_append (key : α → β) (items rest : List α) :
    firsts key items <+: firsts key (items ++ rest) := by
  induction rest using reverseRecOn with
  | nil => simp
  | append_singleton rest last ih =>
      rw [← append_assoc, firsts_concat]
      exact ih.trans (prefix_append _ _)

/-- What a search finds among images is the image of the first item that has a fitting one. -/
lemma find?_filterMap_eq_some_iff {γ : Type} {f : α → Option γ} {p : γ → Bool} {c : γ}
    (hc : p c = true) : (items.filterMap f).find? p = some c ↔
      ∃ before item after, items = before ++ item :: after ∧ f item = some c ∧
        ∀ earlier ∈ before, (f earlier).any p = false := by
  rw [find?_filterMap, Option.bind_eq_some_iff]
  simp only [find?_eq_some_iff_append, Bool.not_eq_true']
  constructor
  · rintro ⟨item, ⟨-, before, after, hitems, hbefore⟩, hitem⟩
    exact ⟨before, item, after, hitems, hitem, hbefore⟩
  · rintro ⟨before, item, after, hitems, hitem, hbefore⟩
    refine ⟨item, ⟨?_, before, after, hitems, hbefore⟩, hitem⟩
    rwa [hitem, Option.any_some]

end RepoAtlas
