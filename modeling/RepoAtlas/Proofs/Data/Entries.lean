import RepoAtlas.Data.Entries
import Mathlib.Data.List.Basic
import Mathlib.Data.List.Induction
import Mathlib.Data.List.Nodup
import Mathlib.Tactic.Lemma

/-!
# Entries with distinct keys

Both ways of inserting keep the keys of a list of entries distinct, so whatever is built by
inserting has distinct keys.  Conversely, entries whose keys are distinct are rebuilt unchanged from
their pairs (`ofPairs_eq_self`): this is what lets a document give back the entries it was written
from, in their order.

Where a key that has a value keeps it, the first value counts: looking it up after more was added is
looking it up in both, one after the other (`lookup_addNew`).
-/

namespace RepoAtlas.Entries

open List

section Keys

variable {α β γ δ : Type} {entries : List (α × β)}

/-- No key occurs twice. -/
def KeysDistinct (entries : List (α × β)) : Prop := (entries.map (·.1)).Nodup

instance [DecidableEq α] (entries : List (α × β)) : Decidable (KeysDistinct entries) :=
  inferInstanceAs (Decidable (entries.map (·.1)).Nodup)

lemma KeysDistinct.map (h : KeysDistinct entries) {f : α → γ} {g : β → δ}
    (hf : Function.Injective f) : KeysDistinct (entries.map fun (k, v) => (f k, g v)) := by
  rw [KeysDistinct, map_map]
  have hkeys := Nodup.map hf h
  rw [map_map] at hkeys
  exact hkeys

end Keys

variable {α β : Type} [BEq α]

lemma ofPairs_concat (pairs : List (α × β)) (pair : α × β) :
    ofPairs (pairs ++ [pair]) = insert pair.1 pair.2 (ofPairs pairs) := by
  rw [ofPairs, foldl_append]
  rfl

lemma addNew_concat (entries more : List (α × β)) (pair : α × β) :
    addNew entries (more ++ [pair]) = insertNew pair.1 pair.2 (addNew entries more) := by
  rw [addNew, foldl_append]
  rfl

lemma addNew_append (entries more rest : List (α × β)) :
    addNew entries (more ++ rest) = addNew (addNew entries more) rest :=
  foldl_append

/-- A key is looked up in the first item that has it. -/
lemma lookup_flatMap {γ : Type} (entriesOf : γ → List (α × β)) (items : List γ) (key : α) :
    (items.flatMap entriesOf).lookup key =
      items.findSome? fun item => (entriesOf item).lookup key := by
  induction items with
  | nil => rfl
  | cons item rest ih =>
      rw [flatMap_cons, lookup_append, ih, findSome?_cons]
      cases (entriesOf item).lookup key <;> rfl

variable [LawfulBEq α] {entries : List (α × β)} {key : α} {value : β}

/-! ## What inserting does to the keys -/

lemma insert_of_not_mem (h : key ∉ entries.map (·.1)) :
    insert key value entries = entries ++ [(key, value)] := by
  induction entries with
  | nil => rfl
  | cons entry rest ih =>
      obtain ⟨k, v⟩ := entry
      rw [map_cons, mem_cons, not_or] at h
      have hne : (k == key) = false := by simpa using fun heq => h.1 heq.symm
      simp only [insert, hne, Bool.false_eq_true, if_false, cons_append]
      rw [ih h.2]

lemma keys_insert_of_mem (h : key ∈ entries.map (·.1)) :
    (insert key value entries).map (·.1) = entries.map (·.1) := by
  induction entries with
  | nil => simp at h
  | cons entry rest ih =>
      obtain ⟨k, v⟩ := entry
      by_cases heq : k = key
      · simp [insert, heq]
      · have hrest : key ∈ rest.map (·.1) := by
          rcases mem_cons.1 h with hk | hk
          · exact absurd hk.symm heq
          · exact hk
        simp only [insert, beq_iff_eq, heq, if_false, map_cons]
        rw [ih hrest]

/-- Where a new key goes does not depend on which value would win. -/
lemma keys_insertNew : (insertNew key value entries).map (·.1) =
    (insert key value entries).map (·.1) := by
  induction entries with
  | nil => rfl
  | cons entry rest ih =>
      obtain ⟨k, v⟩ := entry
      by_cases heq : k = key
      · simp [insert, insertNew, heq]
      · simp only [insert, insertNew, beq_iff_eq, heq, if_false, map_cons]
        rw [ih]

lemma KeysDistinct.insert (h : KeysDistinct entries) (key : α) (value : β) :
    KeysDistinct (insert key value entries) := by
  by_cases hmem : key ∈ entries.map (·.1)
  · rw [KeysDistinct, keys_insert_of_mem hmem]
    exact h
  · rw [KeysDistinct, insert_of_not_mem hmem, map_append]
    exact h.append (nodup_singleton key) (disjoint_singleton.2 hmem)

lemma KeysDistinct.insertNew (h : KeysDistinct entries) (key : α) (value : β) :
    KeysDistinct (insertNew key value entries) := by
  rw [KeysDistinct, keys_insertNew]
  exact h.insert key value

/-- What is set is there, and nothing else is new. -/
lemma subset_insert : insert key value entries ⊆ (key, value) :: entries := by
  induction entries with
  | nil => exact Subset.refl _
  | cons entry rest ih =>
      obtain ⟨k, v⟩ := entry
      by_cases heq : k = key
      · simp [insert, heq]
      · simp only [insert, beq_iff_eq, heq, if_false]
        refine cons_subset.2 ⟨by simp, Subset.trans ih ?_⟩
        exact cons_subset_cons _ (subset_cons_self _ _)

/-! ## What is built by inserting -/

lemma ofPairs_subset (pairs : List (α × β)) : ofPairs pairs ⊆ pairs := by
  induction pairs using reverseRecOn with
  | nil => exact Subset.refl _
  | append_singleton pairs pair ih =>
      rw [ofPairs_concat]
      refine Subset.trans subset_insert (cons_subset.2 ⟨by simp, ?_⟩)
      exact Subset.trans ih (subset_append_left _ _)

lemma keysDistinct_ofPairs (pairs : List (α × β)) : KeysDistinct (ofPairs pairs) := by
  induction pairs using reverseRecOn with
  | nil => exact nodup_nil
  | append_singleton pairs pair ih =>
      rw [ofPairs_concat]
      exact ih.insert pair.1 pair.2

lemma KeysDistinct.addNew (h : KeysDistinct entries) (more : List (α × β)) :
    KeysDistinct (addNew entries more) := by
  induction more using reverseRecOn with
  | nil => exact h
  | append_singleton more pair ih =>
      rw [addNew_concat]
      exact ih.insertNew pair.1 pair.2

/-- **The first value of a key counts** when keys are added that may have one. -/
lemma lookup_addNew (entries more : List (α × β)) (key : α) :
    (addNew entries more).lookup key = (entries ++ more).lookup key := by
  induction more using reverseRecOn with
  | nil => rw [append_nil, addNew, foldl_nil]
  | append_singleton more pair ih =>
      obtain ⟨k, v⟩ := pair
      rw [addNew_concat, lookup_insertNew, ← append_assoc, lookup_append, ← ih]
      by_cases heq : key = k
      · subst heq
        cases (addNew entries more).lookup key <;> simp
      · have hne : (key == k) = false := by simpa using heq
        simp [lookup_cons, hne]

lemma lookup_isSome_iff_mem : (entries.lookup key).isSome ↔ key ∈ entries.map (·.1) := by
  rw [lookup_isSome_iff, mem_map]
  refine exists_congr fun entry => and_congr_right fun _ => ?_
  rw [beq_iff_eq, eq_comm]

/-- No key is lost, and none comes from elsewhere. -/
lemma mem_keys_addNew {more : List (α × β)} :
    key ∈ (addNew entries more).map (·.1) ↔ key ∈ (entries ++ more).map (·.1) := by
  rw [← lookup_isSome_iff_mem, ← lookup_isSome_iff_mem, lookup_addNew]

lemma KeysDistinct.lookup_eq_some_iff (h : KeysDistinct entries) :
    entries.lookup key = some value ↔ (key, value) ∈ entries := by
  rw [List.lookup_eq_some_iff]
  constructor
  · rintro ⟨before, after, rfl, -⟩
    exact mem_append_right before mem_cons_self
  · intro hmem
    obtain ⟨before, after, rfl⟩ := append_of_mem hmem
    refine ⟨before, after, rfl, fun entry hentry => bne_iff_ne.2 ?_⟩
    rw [KeysDistinct, map_append, map_cons, nodup_append] at h
    exact (h.2.2 _ (mem_map_of_mem hentry) _ mem_cons_self).symm

/-- A key that some items have is looked up in the first item that has it. -/
lemma lookup_filterMap {γ : Type} (keyOf : γ → Option α) (valueOf : γ → β) (items : List γ)
    (key : α) : (items.filterMap fun item => (keyOf item).map (·, valueOf item)).lookup key =
      (items.find? fun item => keyOf item == some key).map valueOf := by
  induction items with
  | nil => rfl
  | cons item rest ih =>
      cases hkey : keyOf item with
      | none => simp [hkey, ih]
      | some k =>
          by_cases heq : key = k
          · subst heq
            simp [hkey]
          · have hne : (key == k) = false := by simpa using heq
            simp [hkey, lookup_cons, hne, Ne.symm heq, ih]

lemma insert_map {γ : Type} [BEq γ] [LawfulBEq γ] {f : α → γ} (hf : Function.Injective f) :
    insert (f key) value (entries.map fun (k, v) => (f k, v)) =
      (insert key value entries).map fun (k, v) => (f k, v) := by
  induction entries with
  | nil => rfl
  | cons entry rest ih =>
      obtain ⟨k, v⟩ := entry
      by_cases heq : k = key
      · simp [insert, heq]
      · have hne : f k ≠ f key := fun h => heq (hf h)
        simp only [map_cons, insert, beq_iff_eq, heq, hne, if_false]
        rw [ih]

/-- Keys that are renamed apart are inserted as before. -/
lemma ofPairs_map {γ : Type} [BEq γ] [LawfulBEq γ] {f : α → γ} (hf : Function.Injective f)
    (pairs : List (α × β)) : ofPairs (pairs.map fun (k, v) => (f k, v)) =
      (ofPairs pairs).map fun (k, v) => (f k, v) := by
  induction pairs using reverseRecOn with
  | nil => rfl
  | append_singleton pairs pair ih =>
      rw [map_append, map_singleton, ofPairs_concat, ofPairs_concat, ih]
      exact insert_map hf

/-- **Distinct keys survive rebuilding.**  Every pair is then set at the end. -/
lemma ofPairs_eq_self (h : KeysDistinct entries) : ofPairs entries = entries := by
  induction entries using reverseRecOn with
  | nil => rfl
  | append_singleton front entry ih =>
      rw [KeysDistinct, map_append, map_singleton, nodup_append] at h
      obtain ⟨hfront, -, hnew⟩ := h
      rw [ofPairs_concat, ih hfront]
      exact insert_of_not_mem fun hmem => hnew _ hmem _ (mem_singleton_self _) rfl

end RepoAtlas.Entries
